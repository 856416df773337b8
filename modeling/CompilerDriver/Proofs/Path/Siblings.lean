import CompilerDriver.Proofs.Path.Names
import Mathlib.Data.List.DropRight

/-!
# Files beside one another

The directory of a file has the components of the file but the last (`exists_parent?`), because what `parent?`
leaves of a path are its first stretches between separators (`components_anchored`). So a file that takes
the place of another one has all its components but the last (`components_withFileName`), and it is the same
file exactly if it has the same name (`compare_withFileName_eq_iff`).
-/

namespace CompilerDriver.Path

/-! ## Stretches between separators -/

theorem pieces_joinPieces {ps : List Bytes} (hne : ps ≠ []) (h : ∀ piece ∈ ps, slash ∉ piece) :
    pieces (joinPieces ps) = ps := by
  induction ps with
  | nil => exact absurd rfl hne
  | cons piece rest ih =>
    have hpiece : pieces piece = [piece] := pieces_of_not_mem (h piece List.mem_cons_self)
    cases rest with
    | nil => exact hpiece
    | cons next rest =>
      have hrest := ih (List.cons_ne_nil _ _) fun q hq => h q (List.mem_cons_of_mem _ hq)
      show pieces (piece ++ slash :: joinPieces (next :: rest)) = _
      rw [pieces_append_slash, hpiece, hrest]
      rfl

theorem entries_joinPieces {ps : List Bytes} (h : ∀ piece ∈ ps, slash ∉ piece) :
    entries (joinPieces ps) = ps.filterMap ofPiece := by
  cases ps with
  | nil => rfl
  | cons piece rest => rw [entries, pieces_joinPieces (List.cons_ne_nil _ _) h]

/-- Fewer stretches make a shorter path. -/
theorem joinPieces_prefix_joinPieces {qs ps : List Bytes} (h : qs <+: ps) : joinPieces qs <+: joinPieces ps := by
  induction qs generalizing ps with
  | nil => exact List.nil_prefix
  | cons q qs ih =>
    obtain ⟨rest, rfl⟩ := h
    cases qs with
    | nil =>
      cases rest with
      | nil => exact List.prefix_rfl
      | cons r rest => exact List.prefix_append q _
    | cons q' qs =>
      have hrest : joinPieces (q' :: qs) <+: joinPieces (q' :: qs ++ rest) := ih (List.prefix_append _ _)
      show q ++ slash :: joinPieces (q' :: qs) <+: q ++ slash :: joinPieces (q' :: qs ++ rest)
      exact (List.prefix_append_right_inj q).2 (List.cons_prefix_cons.2 ⟨rfl, hrest⟩)

theorem trimPieces_prefix_self (ps : List Bytes) : trimPieces ps <+: ps := List.rdropWhile_prefix _ ps

/-- What is trimmed off names nothing. -/
theorem filterMap_trimPieces (ps : List Bytes) :
    (trimPieces ps).filterMap ofPiece = ps.filterMap ofPiece := by
  induction ps using List.reverseRecOn with
  | nil => rfl
  | append_singleton ps piece ih =>
    have hstep : trimPieces (ps ++ [piece]) =
        if (ofPiece piece).isNone = true then trimPieces ps else ps ++ [piece] :=
      List.rdropWhile_concat _ ps piece
    rw [hstep]
    split
    next hnone =>
      have hpiece : [piece].filterMap ofPiece = [] := by
        rw [List.filterMap_cons, Option.isNone_iff_eq_none.1 hnone]
        rfl
      rw [ih, List.filterMap_append, hpiece, List.append_nil]
    next => rfl

/-- The last stretch that is left names something. -/
theorem exists_trimPieces {ps : List Bytes} (h : trimPieces ps ≠ []) :
    ∃ before last c, trimPieces ps = before ++ [last] ∧ ofPiece last = some c := by
  have hlast := List.rdropWhile_last_not (fun piece => (ofPiece piece).isNone) ps h
  rw [Option.isNone_iff_eq_none, ← ne_eq, Option.ne_none_iff_exists'] at hlast
  obtain ⟨c, hc⟩ := hlast
  exact ⟨_, _, c, (List.dropLast_concat_getLast h).symm, hc⟩

/-! ## Directories -/

/-- What stands behind the part of a path that is never shortened. -/
def body (p : Path) : Bytes := p.bytes.drop p.anchor.length

theorem anchor_cons (b : UInt8) (rest : Bytes) : anchor ⟨b :: rest⟩ =
    if b = slash then [slash] else if b = dot ∧ (rest = [] ∨ rest.head? = some slash) then [dot] else [] :=
  rfl

theorem head?_pieces_cons {b : UInt8} (hb : b ≠ slash) (rest : Bytes) :
    (pieces (b :: rest)).head? = (pieces rest).head?.map (b :: ·) := by
  rw [pieces, if_neg hb]
  cases hpieces : pieces rest with
  | nil => exact absurd hpieces (pieces_ne_nil rest)
  | cons piece more => rfl

/-- The first stretch is empty only at the end and before a separator. -/
theorem head?_pieces_eq_nil {bs : Bytes} :
    (pieces bs).head? = some [] ↔ bs = [] ∨ bs.head? = some slash := by
  cases bs with
  | nil => exact iff_of_true rfl (.inl rfl)
  | cons b rest =>
    by_cases hb : b = slash
    · rw [pieces, if_pos hb, hb]
      exact iff_of_true rfl (.inr rfl)
    · rw [head?_pieces_cons hb]
      simp [hb]

theorem head?_pieces_eq_dot {b : UInt8} (hb : b ≠ slash) {rest : Bytes} :
    (pieces (b :: rest)).head? = some [dot] ↔ b = dot ∧ (rest = [] ∨ rest.head? = some slash) := by
  rw [head?_pieces_cons hb, ← head?_pieces_eq_nil, Option.map_eq_some_iff]
  constructor
  · rintro ⟨piece, hpiece, heq⟩
    obtain ⟨rfl, rfl⟩ := List.cons.inj heq
    exact ⟨rfl, hpiece⟩
  · rintro ⟨rfl, hpiece⟩
    exact ⟨[], hpiece, rfl⟩

theorem lead_cons {b : UInt8} (hb : b ≠ slash) (rest : Bytes) : lead ⟨b :: rest⟩ =
    if b = dot ∧ (rest = [] ∨ rest.head? = some slash) then [.current] else [] := by
  have hrelative : isAbsolute ⟨b :: rest⟩ = false := by simp [isAbsolute, hb]
  rw [lead, hrelative, if_neg Bool.false_ne_true]
  simp only [head?_pieces_eq_dot hb]

/-- The forms that a path can have. -/
theorem anchor_cases (p : Path) :
    (p.anchor = [slash] ∧ p.lead = [.root] ∧ p.bytes = slash :: p.body) ∨
    (p.anchor = [dot] ∧ p.lead = [.current] ∧ p.bytes = dot :: p.body ∧
      (p.body = [] ∨ p.body.head? = some slash)) ∨
    (p.anchor = [] ∧ p.lead = [] ∧ p.bytes = p.body) := by
  obtain ⟨bytes⟩ := p
  cases bytes with
  | nil => exact .inr (.inr ⟨rfl, rfl, rfl⟩)
  | cons b rest =>
    have hanchor := anchor_cons b rest
    by_cases hslash : b = slash
    · rw [if_pos hslash] at hanchor
      refine .inl ⟨hanchor, by rw [hslash]; rfl, ?_⟩
      rw [body, hanchor, hslash]
      rfl
    · have hlead := lead_cons hslash rest
      rw [if_neg hslash] at hanchor
      by_cases hdot : b = dot ∧ (rest = [] ∨ rest.head? = some slash)
      · rw [if_pos hdot] at hlead hanchor
        refine .inr (.inl ⟨hanchor, hlead, ?_⟩)
        rw [body, hanchor, hdot.1]
        exact ⟨rfl, hdot.2⟩
      · rw [if_neg hdot] at hlead hanchor
        refine .inr (.inr ⟨hanchor, hlead, ?_⟩)
        rw [body, hanchor]
        rfl

theorem anchor_append_body (p : Path) : p.anchor ++ p.body = p.bytes := by
  rcases p.anchor_cases with ⟨hanchor, -, hbytes⟩ | ⟨hanchor, -, hbytes, -⟩ | ⟨hanchor, -, hbytes⟩
  all_goals rw [hanchor, hbytes]; rfl

/-- Where a path goes on with a separator, its first part does too, or ends there. -/
theorem boundary_of_prefix {as bs : Bytes} (h : as <+: bs) (hbs : bs = [] ∨ bs.head? = some slash) :
    as = [] ∨ as.head? = some slash := by
  cases as with
  | nil => exact .inl rfl
  | cons a as =>
    obtain ⟨more, rfl⟩ := h
    exact .inr (hbs.resolve_left (List.cons_ne_nil _ _))

theorem lead_anchored {p : Path} {qs : List Bytes} (h : qs <+: pieces p.body) :
    lead ⟨p.anchor ++ joinPieces qs⟩ = p.lead := by
  have hbytes : joinPieces qs <+: p.body := joinPieces_pieces p.body ▸ joinPieces_prefix_joinPieces h
  rcases p.anchor_cases with ⟨hanchor, hlead, -⟩ | ⟨hanchor, hlead, -, hbody⟩ | ⟨hanchor, hlead, hpath⟩
  · rw [hanchor, hlead]
    rfl
  · rw [hanchor, hlead]
    exact (lead_cons (by decide) _).trans (if_pos ⟨rfl, boundary_of_prefix hbytes hbody⟩)
  · rw [hanchor, hlead, List.nil_append]
    cases qs with
    | nil => rfl
    | cons q qs =>
      -- both paths begin with the same stretch
      have hhead : (pieces (joinPieces (q :: qs))).head? = (pieces p.bytes).head? := by
        have hslash : ∀ piece ∈ q :: qs, slash ∉ piece :=
          fun piece hpiece => slash_not_mem_of_mem_pieces (h.subset hpiece)
        obtain ⟨rest, hrest⟩ := h
        rw [pieces_joinPieces (List.cons_ne_nil _ _) hslash, hpath, ← hrest]
        rfl
      have habsolute (hjoin : isAbsolute ⟨joinPieces (q :: qs)⟩ = true) : p.isAbsolute = true := by
        obtain ⟨rest, hrest⟩ := List.head?_eq_some_iff.1 (beq_iff_eq.1 hjoin)
        obtain ⟨more, hmore⟩ := hbytes
        have hstart : p.bytes = slash :: (rest ++ more) := by
          rw [hpath, ← hmore]
          exact congrArg (· ++ more) hrest
        rw [isAbsolute, hstart]
        rfl
      rw [lead] at hlead ⊢
      rw [hhead]
      split at hlead
      next => cases hlead
      next hrelative => rwa [if_neg fun hjoin => hrelative (habsolute hjoin)]

theorem entries_anchored {p : Path} {qs : List Bytes} (h : qs <+: pieces p.body) :
    entries (p.anchor ++ joinPieces qs) = qs.filterMap ofPiece := by
  have hbytes : joinPieces qs <+: p.body := joinPieces_pieces p.body ▸ joinPieces_prefix_joinPieces h
  rw [← entries_joinPieces fun piece hpiece => slash_not_mem_of_mem_pieces (h.subset hpiece)]
  rcases p.anchor_cases with ⟨hanchor, -⟩ | ⟨hanchor, -, -, hbody⟩ | ⟨hanchor, -⟩
  · rw [hanchor]
    exact entries_append_slash [] (joinPieces qs)
  · rw [hanchor]
    rcases boundary_of_prefix hbytes hbody with hjoin | hjoin
    · rw [hjoin]
      rfl
    · obtain ⟨rest, hrest⟩ := List.head?_eq_some_iff.1 hjoin
      have hdot : entries ([dot] ++ slash :: rest) = entries ([] ++ slash :: rest) := by
        rw [entries_append_slash, entries_append_slash]
        rfl
      rwa [hrest]
  · rw [hanchor, List.nil_append]

/-- The first stretches of a path, behind its anchor, name its first components. -/
theorem components_anchored {p : Path} {qs : List Bytes} (h : qs <+: pieces p.body) :
    components ⟨p.anchor ++ joinPieces qs⟩ = p.lead ++ qs.filterMap ofPiece := by
  rw [components_eq, lead_anchored h, entries_anchored h]

theorem entries_eq_filterMap (p : Path) : entries p.bytes = (pieces p.body).filterMap ofPiece := by
  rw [← entries_anchored List.prefix_rfl, joinPieces_pieces, anchor_append_body]

/-- The directory of a file has all components of the file but its name. -/
theorem exists_parent? {p : Path} {name : Bytes} (h : p.fileName? = some name) :
    ∃ dir, p.parent? = some dir ∧ p.components = dir.components ++ [.name name] := by
  have hlast := fileName?_eq_some.1 h
  rw [entries_eq_filterMap, ← filterMap_trimPieces] at hlast
  have hne : trimPieces (pieces p.body) ≠ [] := by
    intro hnil
    rw [hnil] at hlast
    cases hlast
  obtain ⟨before, last, c, htrim, hc⟩ := exists_trimPieces hne
  have hnames : (before ++ [last]).filterMap ofPiece = before.filterMap ofPiece ++ [c] := by
    rw [List.filterMap_append, List.filterMap_cons, hc]
    rfl
  rw [htrim, hnames, List.getLast?_concat, Option.some.injEq] at hlast
  have hparent : p.parent? = some ⟨p.anchor ++ joinPieces (trimPieces before)⟩ := by
    rw [parent?]
    split
    next hnil => exact absurd hnil hne
    next =>
      change some (Path.mk (p.anchor ++ joinPieces (trimPieces (trimPieces (pieces p.body)).dropLast))) = _
      rw [htrim, List.dropLast_concat]
  have hprefix : trimPieces before <+: pieces p.body :=
    (trimPieces_prefix_self before).trans
      ((List.prefix_append before [last]).trans (htrim ▸ trimPieces_prefix_self _))
  refine ⟨_, hparent, ?_⟩
  rw [components_anchored hprefix, filterMap_trimPieces, components_eq, entries_eq_filterMap,
    ← filterMap_trimPieces, htrim, hnames, hlast, List.append_assoc]

/-! ## Names that change -/

/-- A name that is put behind a path is one component more. -/
theorem components_join_name (dir : Path) {name : Bytes} (h : IsName name) :
    (dir.join ⟨name⟩).components = dir.components ++ [.name name] := by
  have hrelative := isAbsolute_of_isName h
  have hentries := entries_of_isName h
  by_cases hdir : dir.bytes = []
  · have hhead : (pieces name).head? ≠ some [dot] := by
      rw [pieces_of_not_mem h.slash_not_mem]
      exact fun heq => h.ne_dot (Option.some.inj heq)
    have hlead : lead ⟨name⟩ = [] := by rw [lead, hrelative, if_neg Bool.false_ne_true, if_neg hhead]
    have hnone : dir.components = [] := by
      obtain ⟨bytes⟩ := dir
      rw [show bytes = [] from hdir]
      rfl
    rw [join_of_empty hdir, components_eq, hlead, hentries, hnone]
  · rw [components_join hdir hrelative, hentries]

theorem isAbsolute_join_name (dir : Path) {name : Bytes} (h : IsName name) :
    (dir.join ⟨name⟩).isAbsolute = dir.isAbsolute :=
  Bool.eq_iff_iff.2 (isAbsolute_join_iff dir (isAbsolute_of_isName h))

/-- A path without a name gets one behind it. -/
theorem withFileName_of_none {p : Path} (h : p.fileName? = none) (name : Bytes) :
    p.withFileName name = p.join ⟨name⟩ := by
  rw [withFileName, h]
  rfl

/-- A path that takes another name keeps the other components. -/
theorem components_withFileName {p : Path} {old : Bytes} (h : p.fileName? = some old) {name : Bytes}
    (hname : IsName name) : ∃ before, p.components = before ++ [.name old] ∧
      (p.withFileName name).components = before ++ [.name name] := by
  obtain ⟨dir, hparent, hcomponents⟩ := exists_parent? h
  refine ⟨dir.components, hcomponents, ?_⟩
  rw [withFileName, h, hparent]
  exact components_join_name dir hname

/-- A file beside another one is the same file exactly if it has the same name. -/
theorem compare_withFileName_eq_iff {p : Path} {name : Bytes} (hname : IsName name) :
    compare (p.withFileName name) p = .eq ↔ p.fileName? = some name := by
  constructor
  · intro h
    rw [← fileName?_congr h, fileName?_withFileName p hname]
  · intro h
    obtain ⟨before, hp, hsibling⟩ := components_withFileName h hname
    rw [compare_eq_iff, hp, hsibling]

/-! ## Stems and extensions -/

theorem splitAtLast_eq_none_iff {sep : UInt8} {bs : Bytes} : splitAtLast sep bs = none ↔ sep ∉ bs := by
  induction bs with
  | nil => exact iff_of_true rfl List.not_mem_nil
  | cons b rest ih =>
    rw [splitAtLast, List.mem_cons, not_or]
    cases hrest : splitAtLast sep rest with
    | some parts =>
      rw [hrest] at ih
      simpa using fun _ => not_not.1 (mt ih.2 (Option.some_ne_none parts))
    | none =>
      rw [and_iff_left (ih.1 hrest)]
      by_cases hb : b = sep
      · simp [hb]
      · simpa [hb] using Ne.symm hb

/-- Only one place can be the last separator. -/
theorem splitAtLast_append {sep : UInt8} (before : Bytes) {after : Bytes} (h : sep ∉ after) :
    splitAtLast sep (before ++ sep :: after) = some (before, after) := by
  induction before with
  | nil =>
    rw [List.nil_append, splitAtLast, splitAtLast_eq_none_iff.2 h]
    exact if_pos rfl
  | cons b before ih => rw [List.cons_append, splitAtLast, ih]

theorem stemAndExtension_append {stem extension : Bytes} (hstem : stem ≠ []) (h : dot ∉ extension) :
    stemAndExtension (stem ++ dot :: extension) = (stem, some extension) := by
  obtain ⟨b, rest, rfl⟩ := List.exists_cons_of_ne_nil hstem
  rw [stemAndExtension, splitAtLast_append _ h]

/-- A name is all stem and has no dot but in front, or it is stem and extension with a dot between them. -/
theorem stemAndExtension_cases (name : Bytes) :
    (stemAndExtension name = (name, none) ∧ dot ∉ name.tail) ∨
    ∃ stem extension, stemAndExtension name = (stem, some extension) ∧ stem ≠ [] ∧ dot ∉ extension ∧
      name = stem ++ dot :: extension := by
  rw [stemAndExtension]
  cases hcut : splitAtLast dot name with
  | none => exact .inl ⟨rfl, fun h => splitAtLast_eq_none_iff.1 hcut (List.mem_of_mem_tail h)⟩
  | some parts =>
    obtain ⟨before, after⟩ := parts
    have hname := eq_of_splitAtLast hcut
    have hafter := not_mem_after hcut
    cases before with
    | nil => exact .inl ⟨rfl, by rwa [hname]⟩
    | cons b before => exact .inr ⟨_, _, rfl, List.cons_ne_nil b before, hafter, hname⟩

theorem stemAndExtension_of_not_mem_tail {name : Bytes} (h : dot ∉ name.tail) :
    stemAndExtension name = (name, none) := by
  rcases stemAndExtension_cases name with ⟨hall, -⟩ | ⟨stem, extension, -, hstem, -, rfl⟩
  · exact hall
  · rw [List.tail_append_of_ne_nil hstem] at h
    exact absurd (List.mem_append_right _ List.mem_cons_self) h

end CompilerDriver.Path
