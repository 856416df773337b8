import CompilerDriver.Proofs.OrderedMap.Collecting
import CompilerDriver.Proofs.Path.Names
import CompilerDriver.Proofs.Storage.Lawful
import CompilerDriver.Storage.Disk

/-!
# The laws of a disk

On a disk a path is walked name by name, so what is found at its end depends on all that is passed. Two disks
with the same files and directories lead every walk to the same end (`walk_same`), and everything else that is
done on a disk starts from where a path leads.

A file is written under a name of its own and then renamed. After that a walk along the path of the file still
passes directories only, the one from which the draft was removed among them, and it ends at the new file
(`read_writeAtomic`).

Stretches that name nothing are stepped over, so a walk that ends at a file goes where the components of the path say
(`read_congr`). Not so a walk that ends at nothing or at a directory: a separator behind its last name forbids that
there is a file.
-/

namespace CompilerDriver

/-- Both came to the same: to one error, or to related things. -/
inductive SameOutcome {ε α : Type} (Rel : α → α → Prop) : Except ε α → Except ε α → Prop
  | error (e : ε) : SameOutcome Rel (.error e) (.error e)
  | ok {a b : α} (h : Rel a b) : SameOutcome Rel (.ok a) (.ok b)

namespace SameOutcome

variable {ε α β : Type} {Rel : α → α → Prop} {Rel' : β → β → Prop} {x y : Except ε α}

theorem bind (h : SameOutcome Rel x y) {f g : α → Except ε β}
    (hnext : ∀ a b, Rel a b → SameOutcome Rel' (f a) (g b)) :
    SameOutcome Rel' (x >>= f) (y >>= g) := by
  cases h with
  | error e => exact .error e
  | ok h => exact hnext _ _ h

theorem mapError {ε' : Type} (h : SameOutcome Rel x y) (f : ε → ε') :
    SameOutcome Rel (x.mapError f) (y.mapError f) := by
  cases h with
  | error e => exact .error (f e)
  | ok h => exact .ok h

theorem refl {R : α → α → Prop} (hR : ∀ a, R a a) (x : Except ε α) : SameOutcome R x x := by
  cases x with
  | error e => exact .error e
  | ok a => exact .ok (hR a)

theorem bind_eq (h : SameOutcome Rel x y) {f g : α → Except ε β} (hnext : ∀ a b, Rel a b → f a = g b) :
    (x >>= f) = (y >>= g) := by
  cases h with
  | error e => rfl
  | ok h => exact hnext _ _ h

end SameOutcome

/-- The nodes are files with the same contents, or both directories. -/
inductive DiskNode.Same : DiskNode → DiskNode → Prop
  | file (contents : Bytes) (time time' : Instant) : Same (.file contents time) (.file contents time')
  | directory (time time' : Instant) : Same (.directory time) (.directory time')

theorem DiskNode.Same.refl (node : DiskNode) : node.Same node := by
  cases node with
  | file contents time => exact .file contents time time
  | directory time => exact .directory time time

theorem Path.ofPiece_cases (piece : Bytes) : ofPiece piece = none ∨ ofPiece piece = some .parent ∨
    ∃ name, ofPiece piece = some (.name name) := by
  rw [ofPiece]
  split
  next => exact .inl rfl
  next =>
    split
    next => exact .inr (.inl rfl)
    next => exact .inr (.inr ⟨piece, rfl⟩)

namespace Disk

/-! ## Disks with the same files -/

/-- Both are the same place, with the same thing there or nothing. -/
inductive Spot.Same : Spot → Spot → Prop
  | taken (place : Place) {node node' : DiskNode} (h : node.Same node') :
    Same (.taken place node) (.taken place node')
  | free (place : Place) : Same (.free place) (.free place)

theorem Spot.Same.refl (spot : Spot) : spot.Same spot := by
  cases spot with
  | taken place node => exact .taken place (.refl node)
  | free place => exact .free place

/-- The same files and directories are on both disks, whatever their times are. -/
structure Alike (d e : Disk) : Prop where
  nodes : ∀ place, Option.Rel DiskNode.Same (d.node? place) (e.node? place)
  workingDirectory : d.workingDirectory = e.workingDirectory

section Changes

variable (disk : Disk) (now : Instant) (place other : Place)

theorem node?_insert (node : DiskNode) :
    node? { disk with nodes := disk.nodes.insert place node } other =
      if other = place then some node else disk.node? other := by
  rw [node?, OrderedMap.get?_insert]
  simp only [Std.LawfulEqOrd.compare_eq_iff_eq]
  rfl

theorem node?_setNode (node : DiskNode) : (disk.setNode now place node).node? other =
    if other = place then some node
    else if disk.node? place = none ∧ other = place.dropLast then some (.directory now)
    else disk.node? other := by
  rw [setNode, node?_insert]
  cases hplace : disk.node? place with
  | none => simp [touchAbove, node?_insert]
  | some found => simp

theorem workingDirectory_setNode (node : DiskNode) :
    (disk.setNode now place node).workingDirectory = disk.workingDirectory := by
  rw [setNode]
  split <;> rfl

theorem node?_removeNode : (disk.removeNode now place).node? other =
    if other = place then none
    else if other = place.dropLast then some (.directory now) else disk.node? other := by
  rw [removeNode, node?, OrderedMap.get?_filterKeys]
  by_cases h : other = place
  · simp [h]
  · rw [if_pos (by simpa using h), if_neg h]
    exact node?_insert disk place.dropLast other (.directory now)

end Changes

/-! ## Steps of a walk -/

section Step

variable (d : Disk) (here : Place) (time : Instant) {piece : Bytes} (rest : List Bytes)

theorem walk_file (contents : Bytes) (piece : Bytes) :
    d.walk here (.file contents time) (piece :: rest) = .error .notDirectory := by
  simp only [walk]

theorem walk_stay (h : Path.ofPiece piece = none) :
    d.walk here (.directory time) (piece :: rest) = d.walk here (.directory time) rest := by
  simp only [walk, h]

theorem walk_up (h : Path.ofPiece piece = some .parent) :
    d.walk here (.directory time) (piece :: rest) =
      match d.node? here.dropLast with
      | some node => d.walk here.dropLast node rest
      | none => .error .noSuchFile := by
  cases hnode : d.node? here.dropLast <;> simp only [walk, h, hnode]

theorem walk_down {name : Bytes} (h : Path.ofPiece piece = some (.name name)) :
    d.walk here (.directory time) (piece :: rest) =
      if maxName < name.length then .error .nameTooLong
      else match d.node? (here ++ [name]) with
        | some node => d.walk (here ++ [name]) node rest
        | none => if rest.all (·.isEmpty) then .ok (.free (here ++ [name])) else .error .noSuchFile := by
  cases hnode : d.node? (here ++ [name]) <;> simp only [walk, h, hnode]

end Step

/-! ## What the time has no part in -/

variable {d e : Disk}

theorem Alike.refl (d : Disk) : Alike d d := by
  refine ⟨fun place => ?_, rfl⟩
  cases d.node? place with
  | none => exact .none
  | some node => exact .some (.refl node)

theorem Alike.node?_cases (h : Alike d e) (place : Place) : (d.node? place = none ∧ e.node? place = none) ∨
    ∃ node node' : DiskNode, d.node? place = some node ∧ e.node? place = some node' ∧ node.Same node' := by
  have hplace := h.nodes place
  generalize d.node? place = found at hplace ⊢
  generalize e.node? place = found' at hplace ⊢
  cases hplace with
  | none => exact .inl ⟨rfl, rfl⟩
  | some hsame => exact .inr ⟨_, _, rfl, rfl, hsame⟩

theorem walk_same (h : Alike d e) (here : Place) {node node' : DiskNode} (hnode : node.Same node')
    (pieces : List Bytes) : SameOutcome Spot.Same (d.walk here node pieces) (e.walk here node' pieces) := by
  induction pieces generalizing here node node' with
  | nil => exact .ok (.taken here hnode)
  | cons piece rest ih =>
    cases hnode with
    | file contents time time' =>
      rw [walk_file, walk_file]
      exact .error _
    | directory time time' =>
      rcases Path.ofPiece_cases piece with hpiece | hpiece | ⟨name, hpiece⟩
      · rw [walk_stay d here time rest hpiece, walk_stay e here time' rest hpiece]
        exact ih here (.directory time time')
      · rw [walk_up d here time rest hpiece, walk_up e here time' rest hpiece]
        rcases h.node?_cases here.dropLast with ⟨hd, he⟩ | ⟨node, node', hd, he, hsame⟩
        · rw [hd, he]
          exact .error _
        · rw [hd, he]
          exact ih _ hsame
      · rw [walk_down d here time rest hpiece, walk_down e here time' rest hpiece]
        split
        next => exact .error _
        next =>
          rcases h.node?_cases (here ++ [name]) with ⟨hd, he⟩ | ⟨node, node', hd, he, hsame⟩
          · rw [hd, he]
            exact .refl Spot.Same.refl _
          · rw [hd, he]
            exact ih _ hsame

theorem follow_same (h : Alike d e) (path : Path) (pieces : List Bytes) :
    SameOutcome Spot.Same (d.follow path pieces) (e.follow path pieces) := by
  rw [follow, follow, h.workingDirectory]
  split
  next => exact .error _
  split
  next => exact .error _
  split
  next => exact .error _
  next =>
    rcases h.node?_cases (if path.isAbsolute then [] else e.workingDirectory) with
      ⟨hd, he⟩ | ⟨node, node', hd, he, hsame⟩
    · simp only [hd, he]
      exact .error _
    · simp only [hd, he]
      exact (walk_same h _ hsame pieces).mapError StorageError.system

theorem Alike.read_eq (h : Alike d e) (path : Path) : d.read path = e.read path := by
  refine (follow_same h path _).bind_eq fun spot spot' hspot => ?_
  cases hspot with
  | taken place hsame => cases hsame <;> rfl
  | free place => rfl

theorem Alike.isDirectory_eq (h : Alike d e) (path : Path) : d.isDirectory path = e.isDirectory path := by
  have hspot := follow_same h path (Path.pieces path.bytes)
  rw [isDirectory, isDirectory, locate, locate]
  generalize d.follow path (Path.pieces path.bytes) = x at hspot ⊢
  generalize e.follow path (Path.pieces path.bytes) = y at hspot ⊢
  cases hspot with
  | error e => rfl
  | ok hspot =>
    cases hspot with
    | taken place hsame => cases hsame <;> rfl
    | free place => rfl

theorem Alike.setNode (h : Alike d e) (now now' : Instant) (place : Place) {node node' : DiskNode}
    (hnode : node.Same node') : Alike (d.setNode now place node) (e.setNode now' place node') := by
  refine ⟨fun other => ?_, ?_⟩
  · have hfree : d.node? place = none ↔ e.node? place = none := by
      rcases h.node?_cases place with ⟨hd, he⟩ | ⟨found, found', hd, he, -⟩ <;> simp [hd, he]
    simp only [node?_setNode, hfree]
    split
    next => exact .some hnode
    split
    next => exact .some (.directory now now')
    next => exact h.nodes other
  · rw [workingDirectory_setNode, workingDirectory_setNode, h.workingDirectory]

theorem Alike.removeNode (h : Alike d e) (now now' : Instant) (place : Place) :
    Alike (d.removeNode now place) (e.removeNode now' place) := by
  refine ⟨fun other => ?_, h.workingDirectory⟩
  rw [node?_removeNode, node?_removeNode]
  split
  next => exact .none
  split
  next => exact .some (.directory now now')
  next => exact h.nodes other

theorem createDirectory_same (h : Alike d e) (now now' : Instant) (path : Path) :
    SameOutcome Alike (d.createDirectory now path) (e.createDirectory now' path) := by
  refine (follow_same h path _).bind fun spot spot' hspot => ?_
  cases hspot with
  | taken place hsame => exact .error _
  | free place => exact .ok (h.setNode now now' place (.directory now now'))

theorem ensureDirectory_related (h : Alike d e) (now now' : Instant) (path : Path) :
    Attempt.Related Alike (d.ensureDirectory now path) (e.ensureDirectory now' path) := by
  have hmade := createDirectory_same h now now' path
  rw [ensureDirectory, ensureDirectory, h.isDirectory_eq]
  generalize d.createDirectory now path = x at hmade ⊢
  generalize e.createDirectory now' path = y at hmade ⊢
  cases hmade with
  | error e => exact ⟨h, rfl⟩
  | ok hmade => exact ⟨hmade, rfl⟩

theorem createChain_related (h : Alike d e) (now now' : Instant) (paths : List Path) :
    Attempt.Related Alike (createChain now paths d) (createChain now' paths e) := by
  induction paths generalizing d e with
  | nil => exact ⟨h, rfl⟩
  | cons path above ih =>
    have hmade := createDirectory_same h now now' path
    have hensured := ensureDirectory_related h now now' path
    rw [createChain, createChain]
    split
    next => exact ⟨h, rfl⟩
    next =>
      generalize d.createDirectory now path = x at hmade ⊢
      generalize e.createDirectory now' path = y at hmade ⊢
      cases hmade with
      | ok hmade => exact hensured
      | error e =>
        cases e with
        | system error =>
          cases error with
          | noSuchFile => exact (ih h).andThen fun s t hst => ensureDirectory_related hst now now' path
          | _ => exact hensured
        | _ => exact hensured

theorem writablePlace_eq (h : Alike d e) (path : Path) : d.writablePlace path = e.writablePlace path := by
  rw [writablePlace, writablePlace]
  split
  next bare endsInSeparator _ =>
    split
    next =>
      refine (follow_same h path _).bind_eq fun spot spot' hspot => ?_
      cases hspot <;> rfl
    next =>
      refine (follow_same h path _).bind_eq fun spot spot' hspot => ?_
      cases hspot with
      | taken place hsame => cases hsame <;> rfl
      | free place => rfl

theorem renamedPlace_eq (h : Alike d e) (path : Path) : d.renamedPlace path = e.renamedPlace path := by
  refine (follow_same h path _).bind_eq fun spot spot' hspot => ?_
  cases hspot with
  | taken place hsame => cases hsame <;> rfl
  | free place => rfl

theorem writeAtomic_related (h : Alike d e) (now now' : Instant) (path : Path) (contents : Bytes) :
    Attempt.Related Alike (d.writeAtomic now path contents) (e.writeAtomic now' path contents) := by
  rw [writeAtomic, writeAtomic]
  split
  next => exact ⟨h, rfl⟩
  next name _ =>
    rw [writablePlace_eq h]
    split
    next => exact ⟨h, rfl⟩
    next draft _ =>
      -- the draft is at the same place of both disks, so they still are alike
      have hdrafted := h.setNode now now' draft (.file contents now now')
      simp only [renamedPlace_eq hdrafted]
      split
      next => exact ⟨hdrafted.removeNode now now' draft, rfl⟩
      next place _ =>
        exact ⟨(hdrafted.removeNode now now' draft).setNode now now' place (.file contents now now'), rfl⟩

/-! ## What was written is read -/

/-- A path leads to a place at which a file can be written: nothing is there, or another file. -/
def LeadsTo {ε : Type} (place : Place) (result : Except ε Spot) : Prop :=
  result = .ok (.free place) ∨ ∃ contents time, result = .ok (.taken place (.file contents time))

theorem not_leadsTo_error {ε : Type} {place : Place} {error : ε} : ¬LeadsTo place (.error error) := by
  rintro (h | ⟨contents, time, h⟩) <;> cases h

theorem eq_of_leadsTo_free {ε : Type} {here place : Place}
    (h : LeadsTo place (.ok (.free here) : Except ε Spot)) : here = place := by
  rcases h with h | ⟨contents, time, h⟩ <;> cases h
  rfl

theorem eq_of_leadsTo_taken {ε : Type} {here place : Place} {node : DiskNode}
    (h : LeadsTo place (.ok (.taken here node) : Except ε Spot)) : here = place := by
  rcases h with h | ⟨contents, time, h⟩ <;> cases h
  rfl

/-- The place from which a path is walked. -/
def startOf (disk : Disk) (path : Path) : Place := if path.isAbsolute then [] else disk.workingDirectory

/-- Following a path is walking along it from where it starts, on all disks with the same working directory. -/
theorem walk_of_follow {path : Path} {pieces : List Bytes} {spot : Spot} (h : d.follow path pieces = .ok spot) :
    ∃ node, d.node? (d.startOf path) = some node ∧ d.walk (d.startOf path) node pieces = .ok spot ∧
      ∀ e : Disk, e.workingDirectory = d.workingDirectory → ∀ node', e.node? (d.startOf path) = some node' →
        e.follow path pieces = (e.walk (d.startOf path) node' pieces).mapError .system := by
  rw [startOf]
  rw [follow] at h
  split at h
  next => cases h
  next hnul =>
    split at h
    next => cases h
    next hempty =>
      split at h
      next => cases h
      next hlength =>
        dsimp only at h
        split at h
        next node hnode =>
          refine ⟨node, hnode, ?_, fun e hworking node' hnode' => ?_⟩
          · cases hwalk : d.walk (if path.isAbsolute then [] else d.workingDirectory) node pieces with
            | error e =>
              rw [hwalk] at h
              cases h
            | ok found =>
              rw [hwalk] at h
              cases h
              rfl
          · rw [follow, if_neg hnul, if_neg hempty, if_neg hlength, hworking]
            simp only [hnode']
        next => cases h

theorem walk_of_leadsTo {path : Path} {pieces : List Bytes} {place : Place}
    (h : LeadsTo place (d.follow path pieces)) :
    ∃ node, d.node? (d.startOf path) = some node ∧ LeadsTo place (d.walk (d.startOf path) node pieces) ∧
      ∀ e : Disk, e.workingDirectory = d.workingDirectory → ∀ node', e.node? (d.startOf path) = some node' →
        e.follow path pieces = (e.walk (d.startOf path) node' pieces).mapError .system := by
  rcases h with h | ⟨contents, time, h⟩
  · obtain ⟨node, hnode, hwalk, hfollow⟩ := walk_of_follow h
    exact ⟨node, hnode, .inl hwalk, hfollow⟩
  · obtain ⟨node, hnode, hwalk, hfollow⟩ := walk_of_follow h
    exact ⟨node, hnode, .inr ⟨contents, time, hwalk⟩, hfollow⟩

section Written

variable {place : Place} {contents : Bytes} {time : Instant}
  (hdirectories : ∀ here t, d.node? here = some (.directory t) → ∃ t', e.node? here = some (.directory t'))
  (hplace : e.node? place = some (.file contents time))

include hdirectories hplace

/-- What a walk to the place passes is on the other disk, too. -/
theorem exists_node?_of_leadsTo {here : Place} {node : DiskNode} (hnode : d.node? here = some node)
    {pieces : List Bytes} (hwalk : LeadsTo place (d.walk here node pieces)) :
    ∃ node', e.node? here = some node' := by
  cases node with
  | directory t =>
    obtain ⟨t', ht'⟩ := hdirectories here t hnode
    exact ⟨_, ht'⟩
  | file found t =>
    cases pieces with
    | nil => exact ⟨_, eq_of_leadsTo_taken hwalk ▸ hplace⟩
    | cons piece rest =>
      rw [walk_file] at hwalk
      exact absurd hwalk not_leadsTo_error

/-- A walk that leads to a place leads there too after a file was put there, if all directories are still
directories. -/
theorem walk_written {here : Place} {node node' : DiskNode} (hnode : d.node? here = some node)
    (hnode' : e.node? here = some node') {pieces : List Bytes} (hlast : pieces.getLast? ≠ some [])
    (hwalk : LeadsTo place (d.walk here node pieces)) :
    e.walk here node' pieces = .ok (.taken place (.file contents time)) := by
  induction pieces generalizing here node node' with
  | nil =>
    obtain rfl := eq_of_leadsTo_taken hwalk
    rw [walk, Option.some.inj (hnode'.symm.trans hplace)]
  | cons piece rest ih =>
    have hrest : rest.getLast? ≠ some [] := by
      intro h
      rw [List.getLast?_cons, h] at hlast
      exact hlast rfl
    -- what the walk passes next is there on the other disk, and from there on it goes the same way
    have hpass {next : Place} {found : DiskNode} (hfound : d.node? next = some found)
        (hnext : LeadsTo place (d.walk next found rest)) : ∃ found', e.node? next = some found' ∧
          e.walk next found' rest = .ok (.taken place (.file contents time)) := by
      obtain ⟨found', hfound'⟩ := exists_node?_of_leadsTo hdirectories hplace hfound hnext
      exact ⟨found', hfound', ih hfound hfound' hrest hnext⟩
    cases node with
    | file found t =>
      rw [walk_file] at hwalk
      exact absurd hwalk not_leadsTo_error
    | directory t =>
      obtain ⟨t', ht'⟩ := hdirectories here t hnode
      obtain rfl := Option.some.inj (hnode'.symm.trans ht')
      rcases Path.ofPiece_cases piece with hpiece | hpiece | ⟨name, hpiece⟩
      · rw [walk_stay d here t rest hpiece] at hwalk
        rw [walk_stay e here t' rest hpiece]
        exact ih hnode ht' hrest hwalk
      · rw [walk_up d here t rest hpiece] at hwalk
        rw [walk_up e here t' rest hpiece]
        cases hup : d.node? here.dropLast with
        | none =>
          rw [hup] at hwalk
          exact absurd hwalk not_leadsTo_error
        | some found =>
          rw [hup] at hwalk
          obtain ⟨found', hfound', hend⟩ := hpass hup hwalk
          rw [hfound']
          exact hend
      · rw [walk_down d here t rest hpiece] at hwalk
        rw [walk_down e here t' rest hpiece]
        split at hwalk
        next => exact absurd hwalk not_leadsTo_error
        next hlength =>
          rw [if_neg hlength]
          cases hdown : d.node? (here ++ [name]) with
          | some found =>
            rw [hdown] at hwalk
            obtain ⟨found', hfound', hend⟩ := hpass hdown hwalk
            rw [hfound']
            exact hend
          | none =>
            rw [hdown] at hwalk
            dsimp only at hwalk
            split at hwalk
            next hnothing =>
              -- only separators could follow, and none does
              have hnil : rest = [] := by
                cases hend : rest.getLast? with
                | none => exact List.getLast?_eq_none_iff.1 hend
                | some last =>
                  have hempty := List.all_eq_true.1 hnothing last (List.mem_of_getLast? hend)
                  rw [List.isEmpty_iff.1 hempty] at hend
                  exact absurd hend hrest
              rw [hnil, eq_of_leadsTo_free hwalk, hplace]
              rfl
            next => exact absurd hwalk not_leadsTo_error

end Written

/-- The spot is on the disk. -/
def Spot.IsOn (d : Disk) : Spot → Prop
  | .taken place node => d.node? place = some node
  | .free place => d.node? place = none

/-- A walk ends at a spot of the disk. -/
theorem isOn_of_walk {here : Place} {node : DiskNode} (hnode : d.node? here = some node)
    {pieces : List Bytes} {spot : Spot} (h : d.walk here node pieces = .ok spot) : spot.IsOn d := by
  induction pieces generalizing here node with
  | nil =>
    cases h
    exact hnode
  | cons piece rest ih =>
    cases node with
    | file contents t =>
      rw [walk_file] at h
      cases h
    | directory t =>
      rcases Path.ofPiece_cases piece with hpiece | hpiece | ⟨name, hpiece⟩
      · rw [walk_stay d here t rest hpiece] at h
        exact ih hnode h
      · rw [walk_up d here t rest hpiece] at h
        split at h
        next found hup => exact ih hup h
        next => cases h
      · rw [walk_down d here t rest hpiece] at h
        split at h
        next => cases h
        split at h
        next found hdown => exact ih hdown h
        next hdown =>
          split at h
          next =>
            cases h
            exact hdown
          next => cases h

/-- Where a file can be written there is no directory. -/
theorem node?_ne_directory {path : Path} {pieces : List Bytes} {place : Place}
    (h : LeadsTo place (d.follow path pieces)) (t : Instant) : d.node? place ≠ some (.directory t) := by
  obtain ⟨node, hnode, hwalk, -⟩ := walk_of_leadsTo h
  rcases hwalk with hwalk | ⟨contents, time, hwalk⟩
  · have hfree : d.node? place = none := isOn_of_walk hnode hwalk
    rw [hfree]
    exact nofun
  · have htaken : d.node? place = some (.file contents time) := isOn_of_walk hnode hwalk
    rw [htaken]
    exact nofun

/-- Without a separator at its end, a path has no empty piece there. -/
theorem splitTrailing_eq (path : Path) (h : (splitTrailing path).2 = false) :
    (splitTrailing path).1 = Path.pieces path.bytes ∧ (Path.pieces path.bytes).getLast? ≠ some [] := by
  rw [splitTrailing] at h ⊢
  generalize Path.pieces path.bytes = pieces at h ⊢
  have hlength : pieces.reverse.length ≤ (pieces.reverse.dropWhile (·.isEmpty)).length := by
    simpa using h
  -- nothing was dropped, so the last piece is not empty
  have hall : pieces.reverse.dropWhile (·.isEmpty) = pieces.reverse :=
    (List.dropWhile_suffix _).eq_of_length_le hlength
  refine ⟨by rw [hall, List.reverse_reverse], fun hlast => ?_⟩
  have hhead := List.head?_dropWhile_not (·.isEmpty) pieces.reverse
  rw [hall, List.head?_reverse, hlast] at hhead
  exact absurd hhead (by decide)

theorem leadsTo_of_renamedPlace {path : Path} {place : Place} (h : d.renamedPlace path = .ok place) :
    LeadsTo place (d.locate path) ∧ (Path.pieces path.bytes).getLast? ≠ some [] := by
  have hbare := splitTrailing_eq path
  rw [renamedPlace] at h
  cases hsplit : splitTrailing path with
  | mk bare endsInSeparator =>
    rw [hsplit] at h hbare
    dsimp only at h hbare
    cases hspot : d.follow path bare with
    | error e =>
      rw [hspot] at h
      cases h
    | ok spot =>
      rw [hspot] at h
      simp only [bind, Except.bind] at h
      split at h
      next => cases h
      split at h
      next => cases h
      next hend =>
        obtain ⟨rfl, hlast⟩ := hbare (Bool.eq_false_iff.2 hend)
        refine ⟨?_, hlast⟩
        rw [locate, hspot]
        split at h <;> cases h
        · exact .inr ⟨_, _, rfl⟩
        · exact .inl rfl

theorem spec_of_writeAtomic {now : Instant} {path : Path} {contents : Bytes}
    (h : (d.writeAtomic now path contents).failure = none) :
    ∃ draft place, (d.setNode now draft (.file contents now)).renamedPlace path = .ok place ∧
      (d.writeAtomic now path contents).left =
        ((d.setNode now draft (.file contents now)).removeNode now draft).setNode now place
          (.file contents now) := by
  rw [writeAtomic] at h ⊢
  split at h
  next => cases h
  next name _ =>
    split at h
    next => cases h
    next draft hdraft =>
      dsimp only at h
      split at h
      next => cases h
      next place hplace =>
        refine ⟨draft, place, hplace, ?_⟩
        simp only [hplace]

theorem read_writeAtomic {now : Instant} {path : Path} {contents : Bytes}
    (h : (d.writeAtomic now path contents).failure = none) :
    (d.writeAtomic now path contents).left.read path = .ok contents := by
  obtain ⟨draft, place, hplace, hleft⟩ := spec_of_writeAtomic h
  obtain ⟨hleads, hlast⟩ := leadsTo_of_renamedPlace hplace
  have hdraft : (d.setNode now draft (.file contents now)).node? draft = some (.file contents now) := by
    rw [node?_setNode, if_pos rfl]
  rw [hleft]
  generalize d.setNode now draft (.file contents now) = drafted at hplace hleads hdraft ⊢
  have hfile : ((drafted.removeNode now draft).setNode now place (.file contents now)).node? place =
      some (.file contents now) := by
    rw [node?_setNode, if_pos rfl]
  -- neither removing the draft nor writing the file makes a directory anything else
  have hdirectories (here : Place) (t : Instant) (hhere : drafted.node? here = some (.directory t)) :
      ∃ t', ((drafted.removeNode now draft).setNode now place (.file contents now)).node? here =
        some (.directory t') := by
    have hplace : here ≠ place := fun heq => node?_ne_directory hleads t (heq ▸ hhere)
    have hdraft : here ≠ draft := by
      rintro rfl
      rw [hdraft] at hhere
      cases hhere
    rw [node?_setNode, if_neg hplace]
    split
    next => exact ⟨_, rfl⟩
    next =>
      rw [node?_removeNode, if_neg hdraft]
      split
      next => exact ⟨_, rfl⟩
      next => exact ⟨_, hhere⟩
  have hworking : ((drafted.removeNode now draft).setNode now place (.file contents now)).workingDirectory =
      drafted.workingDirectory := workingDirectory_setNode ..
  obtain ⟨node, hstart, hwalk, hfollow⟩ := walk_of_leadsTo hleads
  obtain ⟨node', hstart'⟩ := exists_node?_of_leadsTo hdirectories hfile hstart hwalk
  rw [read, locate, hfollow _ hworking node' hstart',
    walk_written hdirectories hfile hstart hstart' hlast hwalk]
  rfl

/-! ## Spellings of one path -/

/-- The stretch that names a component. -/
def stretchOf : Path.Component → Bytes
  | .name name => name
  | .parent => [Path.dot, Path.dot]
  | _ => []

/-- The stretches that name something are known from what they name. -/
theorem filter_ofPiece (pieces : List Bytes) :
    pieces.filter (fun piece => (Path.ofPiece piece).isSome) = (pieces.filterMap Path.ofPiece).map stretchOf := by
  have hstretch {piece : Bytes} {c : Path.Component} (h : Path.ofPiece piece = some c) : stretchOf c = piece := by
    rw [Path.ofPiece] at h
    split at h
    next => cases h
    next =>
      split at h
      next hparent =>
        cases h
        exact hparent.symm
      next =>
        cases h
        rfl
  induction pieces with
  | nil => rfl
  | cons piece rest ih =>
    cases hpiece : Path.ofPiece piece with
    | none => rw [List.filter_cons_of_neg (by simp [hpiece]), List.filterMap_cons_none hpiece, ih]
    | some c =>
      rw [List.filter_cons_of_pos (by simp [hpiece]), List.filterMap_cons_some hpiece, List.map_cons, ih,
        hstretch hpiece]

/-- On its way to a file a walk steps over the stretches that name nothing. -/
theorem walk_filter {here place : Place} {node : DiskNode} {pieces : List Bytes} {contents : Bytes} {time : Instant}
    (h : d.walk here node pieces = .ok (.taken place (.file contents time))) :
    d.walk here node (pieces.filter fun piece => (Path.ofPiece piece).isSome) =
      .ok (.taken place (.file contents time)) := by
  induction pieces generalizing here node with
  | nil => exact h
  | cons piece rest ih =>
    cases node with
    | file found t =>
      rw [walk_file] at h
      cases h
    | directory t =>
      rcases Path.ofPiece_cases piece with hpiece | hpiece | ⟨name, hpiece⟩
      · rw [walk_stay d here t rest hpiece] at h
        rw [List.filter_cons_of_neg (by simp [hpiece])]
        exact ih h
      · rw [walk_up d here t rest hpiece] at h
        rw [List.filter_cons_of_pos (by simp [hpiece]), walk_up d here t _ hpiece]
        split at h
        next found hup => exact ih h
        next => cases h
      · rw [walk_down d here t rest hpiece] at h
        rw [List.filter_cons_of_pos (by simp [hpiece]), walk_down d here t _ hpiece]
        split at h
        next => cases h
        next hlength =>
          rw [if_neg hlength]
          split at h
          next found hdown => exact ih h
          next hdown => split at h <;> cases h

/-- A file that can be read lies at the end of a walk. -/
theorem walk_of_read {path : Path} {contents : Bytes} (h : d.read path = .ok contents) :
    ∃ node place time, d.node? (d.startOf path) = some node ∧
      d.walk (d.startOf path) node (Path.pieces path.bytes) = .ok (.taken place (.file contents time)) := by
  rw [read] at h
  cases hspot : d.locate path with
  | error e =>
    rw [hspot] at h
    cases h
  | ok spot =>
    obtain ⟨node, hnode, hwalk, -⟩ := walk_of_follow hspot
    rw [hspot] at h
    simp only [bind, Except.bind] at h
    split at h <;> cases h
    exact ⟨node, _, _, hnode, hwalk⟩

theorem read_congr {p q : Path} (h : compare p q = .eq) {contents contents' : Bytes}
    (hp : d.read p = .ok contents) (hq : d.read q = .ok contents') : contents = contents' := by
  obtain ⟨node, place, time, hnode, hwalk⟩ := walk_of_read hp
  obtain ⟨node', place', time', hnode', hwalk'⟩ := walk_of_read hq
  have hstart : d.startOf p = d.startOf q := by rw [startOf, startOf, Path.isAbsolute_congr h]
  have hentries := Path.entries_congr h
  rw [hstart] at hnode hwalk
  obtain rfl : node = node' := Option.some.inj (hnode.symm.trans hnode')
  -- both walks are the one along the components
  have hsame := walk_filter hwalk
  rw [filter_ofPiece, ← Path.entries, hentries, Path.entries, ← filter_ofPiece, walk_filter hwalk'] at hsame
  cases hsame
  rfl

instance : LawfulPaths Disk where
  isRooted_eq _ _ _ h := h
  isRooted_createDirectories _ _ _ := rfl
  isRooted_writeAtomic _ _ _ _ := rfl
  read_congr _ _ _ h _ _ hp hq := read_congr h hp hq

instance : LawfulStorage Disk where
  Alike := Alike
  refl := Alike.refl
  read_eq := Alike.read_eq
  createDirectories_related h now now' path := createChain_related h now now' path.ancestors
  writeAtomic_related := writeAtomic_related
  read_written := read_writeAtomic

end Disk

end CompilerDriver
