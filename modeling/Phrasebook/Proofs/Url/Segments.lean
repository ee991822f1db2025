import Phrasebook.Proofs.Results
import Phrasebook.Proofs.Url.Percent
import Phrasebook.Url.Parser

/-!
# The segments that are read

A text between slashes becomes a segment without slashes, and there is always a last one. So the
path of a URL of the web is a list of such segments and not empty, and every URL to which something
can be appended has a path of segments.
-/

namespace Phrasebook

namespace UrlPath

/-- Whether a text has no slash. -/
def NoSlash (text : List Char) : Prop := '/' ∉ text

/-- No escape is written with a slash. -/
theorem isDelimiter_slash : Percent.IsDelimiter '/' := by decide

/-- What is between the slashes of a text has none. -/
theorem noSlash_of_mem_splitOn {text piece : List Char} (h : piece ∈ text.splitOn '/') :
    NoSlash piece := by
  induction text generalizing piece with
  | nil =>
    rw [List.splitOn_nil, List.mem_singleton] at h
    rw [h]
    exact List.not_mem_nil
  | cons c rest ih =>
    rw [List.splitOn_cons_eq_if_modifyHead] at h
    split at h
    · rcases List.mem_cons.mp h with rfl | h
      · exact List.not_mem_nil
      · exact ih h
    · rename_i hc
      have hne : '/' ≠ c := fun heq => hc (beq_iff_eq.mpr heq.symm)
      obtain ⟨first, others, hsplit⟩ := List.exists_cons_of_ne_nil (List.splitOn_ne_nil '/' rest)
      rw [hsplit, List.modifyHead_cons] at h
      rcases List.mem_cons.mp h with rfl | h
      · have hfirst := ih (hsplit ▸ List.mem_cons_self)
        intro hmem
        rcases List.mem_cons.mp hmem with heq | hmem
        · exact hne heq
        · exact hfirst hmem
      · exact ih (hsplit ▸ List.mem_cons_of_mem first h)

/-- The pieces of a text have no slash. -/
theorem noSlash_of_mem_pieces {kind : SchemeKind} {text : List Char} {piece : Piece}
    (h : piece ∈ pieces kind text) : NoSlash piece.text := by
  obtain ⟨between, hbetween, rfl⟩ := List.mem_map.mp h
  intro hmem
  have hvisible := (Percent.mem_of_mem_encode isDelimiter_slash hmem).1
  exact noSlash_of_mem_splitOn hbetween (List.mem_filter.mp hvisible).1

/-- A text has one piece at least, which is empty for the empty text. -/
theorem pieces_ne_nil (kind : SchemeKind) (text : List Char) : pieces kind text ≠ [] := by
  simp [pieces]

/-- No segment has a slash. -/
def AllNoSlash (names : List String) : Prop := ∀ name ∈ names, NoSlash name.toList

/-- Segments without slashes stay so when more of them come behind. -/
theorem AllNoSlash.append {front back : List String} (hfront : AllNoSlash front)
    (hback : AllNoSlash back) : AllNoSlash (front ++ back) :=
  List.forall_mem_append.mpr ⟨hfront, hback⟩

/-- One segment without slashes, as a list. -/
theorem allNoSlash_singleton {name : String} (h : NoSlash name.toList) : AllNoSlash [name] :=
  List.forall_mem_singleton.mpr h

/-- Going above a segment leaves the others. -/
theorem AllNoSlash.shorten {names : List String} (h : AllNoSlash names) :
    AllNoSlash (shorten names) := by
  unfold UrlPath.shorten
  split
  · split
    · exact h
    · exact fun name hname => h name (List.dropLast_subset _ hname)
  · exact List.forall_mem_nil _

namespace Walk

variable {kind : SchemeKind} {w : Walk} {piece : Piece}

/-- Outside of files a piece is added as it is. -/
theorem add_of_ne_file (hkind : kind ≠ .file) (w : Walk) (piece : Piece) :
    w.add kind piece = { w with names := w.names ++ [String.ofList piece.text] } := by
  unfold add
  split <;> first | exact absurd rfl hkind | rfl

/-- Only the URLs of files have pieces with a drive letter, which are read as they stand. -/
theorem isParted_of_ne_file (hkind : kind ≠ .file) (w : Walk) (piece : Piece) :
    w.isParted kind piece = false := by
  simp [isParted, hkind]

/-- One step of a walk adds no slash. -/
theorem allNoSlash_step (hkind : kind ≠ .file) (hw : AllNoSlash w.names)
    (hpiece : NoSlash piece.text) : AllNoSlash (w.step kind piece).names := by
  have hadd : AllNoSlash (w.add kind piece).names := by
    rw [add_of_ne_file hkind]
    refine hw.append (allNoSlash_singleton ?_)
    rwa [String.toList_ofList]
  rw [step, isParted_of_ne_file hkind, if_neg Bool.false_ne_true]
  split
  · exact hw.shorten
  · split
    · exact hw
    · exact hadd

/-- The last step of a walk adds no slash either. -/
theorem allNoSlash_lastStep (hkind : kind ≠ .file) (hw : AllNoSlash w.names)
    (hpiece : NoSlash piece.text) : AllNoSlash (w.lastStep kind piece).names := by
  have hstep := allNoSlash_step hkind hw hpiece
  unfold lastStep
  dsimp only
  split
  · exact hstep.append (allNoSlash_singleton List.not_mem_nil)
  · exact hstep

/-- Behind its last step a walk has a segment. -/
theorem names_lastStep_ne_nil (hkind : kind ≠ .file) (w : Walk) (piece : Piece) :
    (w.lastStep kind piece).names ≠ [] := by
  unfold lastStep
  dsimp only
  rw [isParted_of_ne_file hkind]
  split
  · simp
  · rename_i hdots
    have hdouble : isDoubleDot piece.text = false := by simp_all
    have hdot : isDot piece.text = false := by simp_all
    rw [step, isParted_of_ne_file hkind, hdouble, hdot, add_of_ne_file hkind]
    simp

/-- A walk along some pieces without slashes has segments without slashes, and at least one. -/
theorem allNoSlash_along (hkind : kind ≠ .file) (hw : AllNoSlash w.names) {pieces : List Piece}
    (hne : pieces ≠ []) (hpieces : ∀ piece ∈ pieces, NoSlash piece.text) :
    AllNoSlash (w.along kind pieces).names ∧ (w.along kind pieces).names ≠ [] := by
  induction pieces generalizing w with
  | nil => exact absurd rfl hne
  | cons piece rest ih =>
    obtain ⟨hpiece, hrest⟩ := List.forall_mem_cons.mp hpieces
    cases rest with
    | nil => exact ⟨allNoSlash_lastStep hkind hw hpiece, names_lastStep_ne_nil hkind w piece⟩
    | cons next rest =>
      exact ih (allNoSlash_step hkind hw hpiece) (List.cons_ne_nil next rest) hrest

end Walk

/-- Outside of files a text is read as segments without slashes, at least one. -/
theorem allNoSlash_read {kind : SchemeKind} (hkind : kind ≠ .file) (text : List Char) :
    AllNoSlash (read kind text) ∧ read kind text ≠ [] :=
  Walk.allNoSlash_along (w := {}) hkind (List.forall_mem_nil _) (pieces_ne_nil kind text)
    fun _ hpiece => noSlash_of_mem_pieces hpiece

end UrlPath

namespace Url

/-- Behind two slashes there is an authority and a path of segments. For URLs of the web it has at
least one, and none of its segments has a slash. -/
theorem readHierarchy_eq_ok {scheme : String} {kind : SchemeKind} {isLast : Bool}
    {text : List Char} {authority : Option Authority} {path : UrlPath}
    (h : readHierarchy scheme kind isLast text = .ok (authority, path)) :
    authority.isSome = true ∧ ∃ names, path = .segments names ∧
      (kind = .special → UrlPath.AllNoSlash names ∧ names ≠ []) := by
  unfold readHierarchy at h
  obtain ⟨a, -, h⟩ := Except.bind_eq_ok_iff.mp h
  simp only [pure, Except.pure, Except.ok.injEq, Prod.mk.injEq] at h
  obtain ⟨rfl, rfl⟩ := h
  refine ⟨rfl, _, rfl, ?_⟩
  rintro rfl
  split
  · exact ⟨UrlPath.allNoSlash_singleton List.not_mem_nil, List.cons_ne_nil _ _⟩
  · exact UrlPath.allNoSlash_read (by decide) _

/-- What is read of a file is a path of segments. -/
theorem exists_segments_of_readFile {text : List Char} {authority : Option Authority}
    {path : UrlPath} (h : readFile text = .ok (authority, path)) :
    ∃ names, path = .segments names := by
  have hfile {host : Option Host} {rest : List Char}
      (h : filePath host rest = (authority, path)) : ∃ names, path = .segments names := by
    simp only [filePath, Prod.mk.injEq] at h
    exact ⟨_, h.2.symm⟩
  unfold readFile at h
  split at h
  · exact hfile (Except.ok.inj h)
  · split at h
    · exact hfile (Except.ok.inj h)
    · rename_i rest _
      unfold readFileAt at h
      dsimp only at h
      split at h
      · exact hfile (Except.ok.inj h)
      · obtain ⟨host, -, h⟩ := Except.bind_eq_ok_iff.mp h
        cases host with
        | none => exact hfile (Except.ok.inj h)
        | some host => exact hfile (Except.ok.inj h)

/-- The parts of a URL that is read. -/
theorem parse_eq_ok {text : String} {u : Url} (h : parse text = .ok u) :
    ∃ isLast body, readLocation u.scheme isLast body = .ok (u.authority, u.path) := by
  unfold parse at h
  split at h
  · rename_i scheme rest _
    unfold ofScheme at h
    generalize splitEnds (.ofScheme scheme) rest = ends at h
    obtain ⟨body, query, fragment⟩ := ends
    dsimp only at h
    obtain ⟨location, hlocation, h⟩ := Except.bind_eq_ok_iff.mp h
    simp only [pure, Except.pure, Except.ok.injEq] at h
    rw [← h]
    exact ⟨_, body, hlocation⟩
  · cases h

/-- A URL with a scheme of the web that is read has an authority, and its path is a list of segments
without slashes, at least one. -/
theorem segments_of_parse {text : String} {u : Url} (h : parse text = .ok u)
    (hkind : u.kind = .special) :
    u.authority.isSome = true ∧ ∃ names, u.path = .segments names ∧
      UrlPath.AllNoSlash names ∧ names ≠ [] := by
  obtain ⟨isLast, body, hlocation⟩ := parse_eq_ok h
  rw [kind] at hkind
  rw [readLocation, hkind] at hlocation
  obtain ⟨hauthority, names, hpath, hnames⟩ := readHierarchy_eq_ok hlocation
  exact ⟨hauthority, names, hpath, hnames rfl⟩

/-- A URL that is read has a path of segments, unless nothing can be appended to it. -/
theorem exists_segments_of_parse {text : String} {u : Url} (h : parse text = .ok u)
    (hbase : u.cannotBeBase = false) : ∃ names, u.path = .segments names := by
  obtain ⟨isLast, body, hlocation⟩ := parse_eq_ok h
  unfold readLocation at hlocation
  split at hlocation
  · exact exists_segments_of_readFile hlocation
  · obtain ⟨-, names, hpath, -⟩ := readHierarchy_eq_ok hlocation
    exact ⟨names, hpath⟩
  · unfold readPlain at hlocation
    split at hlocation
    · obtain ⟨-, names, hpath, -⟩ := readHierarchy_eq_ok hlocation
      exact ⟨names, hpath⟩
    · simp only [Except.ok.injEq, Prod.mk.injEq] at hlocation
      exact ⟨_, hlocation.2.symm⟩
    · simp only [Except.ok.injEq, Prod.mk.injEq] at hlocation
      rw [cannotBeBase, ← hlocation.1, ← hlocation.2] at hbase
      cases hbase

end Url

end Phrasebook
