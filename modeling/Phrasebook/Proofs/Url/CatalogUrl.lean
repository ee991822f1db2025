import Phrasebook.Fetch.Catalog
import Phrasebook.Proofs.Results
import Phrasebook.Proofs.Url.Segments

/-!
# Catalog URLs stay in their directory

Whatever a code is made of, the name of its file is one segment of a path: what could end the
segment is escaped, and the ending of the name keeps it from being made of dots. So the catalog of a
locale stands directly in the directory `locales`, behind a path that is decided by the base alone.
-/

namespace Phrasebook

namespace UrlPath

/-- Some segments as they are written, each behind a slash. -/
def written (names : List String) : List Char := names.flatMap fun name => '/' :: name.toList

/-- The text of a path of segments has each of them behind a slash. -/
theorem toList_render_segments (names : List String) :
    (UrlPath.segments names).render.toList = written names := by
  rw [render, String.toList_join, List.flatMap_map, written]
  congr 1
  funext name
  simp

/-- Segments behind segments are written behind them. -/
theorem written_append (front back : List String) :
    written (front ++ back) = written front ++ written back := List.flatMap_append

/-- Only a single empty segment is written as a slash alone. -/
theorem written_eq_slash_iff {names : List String} : written names = ['/'] ↔ names = [""] := by
  constructor
  · intro h
    cases names with
    | nil => cases h
    | cons name rest =>
      rw [written, List.flatMap_cons, List.cons_append, List.cons.injEq,
        List.append_eq_nil_iff] at h
      obtain ⟨-, hname, hrest⟩ := h
      have hname : name = "" := String.toList_eq_nil_iff.mp hname
      cases rest with
      | nil => rw [hname]
      | cons next rest => simp at hrest
  · rintro rfl
    rfl

/-- A path without the slash at its end, if there is one, and without a slash that is all that is
left. -/
def stemChars (path : List Char) : List Char :=
  let front := if path.getLast? = some '/' then path.dropLast else path
  if front = ['/'] then [] else front

/-- What stands before the directory of the catalogs under a base with some path. -/
def stem (path : String) : String := String.ofList (stemChars path.toList)

/-- One slash more at the end makes no difference. -/
theorem stemChars_append_slash {path : List Char} (h : path.getLast? ≠ some '/') :
    stemChars (path ++ ['/']) = stemChars path := by
  have hlast : (path ++ ['/']).getLast? = some '/' := List.getLast?_concat
  simp only [stemChars, if_pos hlast, if_neg h, List.dropLast_concat]

/-- The segments behind which names are appended. -/
def front (names : List String) : List String :=
  if trimEnd names = [""] then [] else trimEnd names

/-- An empty segment at the end goes, unless it is the only one. -/
theorem trimEnd_concat_empty {names : List String} (h : names ≠ []) :
    trimEnd (names ++ [""]) = names := by
  have hlength := List.length_pos_iff.mpr h
  have hmore : 1 < (names ++ [""]).length := by
    rw [List.length_append, List.length_singleton]
    omega
  rw [trimEnd, if_pos ⟨List.getLast?_concat, hmore⟩, List.dropLast_concat]

/-- A segment at the end that is not empty stays. -/
theorem trimEnd_concat_of_ne {names : List String} {last : String} (h : last ≠ "") :
    trimEnd (names ++ [last]) = names ++ [last] := by
  rw [trimEnd, if_neg]
  rintro ⟨hlast, -⟩
  rw [List.getLast?_concat, Option.some.injEq] at hlast
  exact h hlast

/-- What names are appended behind is the stem of the path. -/
theorem written_front {names : List String} (hne : names ≠ []) (h : AllNoSlash names) :
    written (front names) = stemChars (written names) := by
  obtain ⟨others, last, rfl⟩ : ∃ others last, names = others ++ [last] :=
    ⟨_, _, (List.dropLast_concat_getLast hne).symm⟩
  have hwritten : written (others ++ [last]) = written others ++ '/' :: last.toList := by
    rw [written_append]
    simp [written]
  -- An empty last segment is the slash at the end of the path; any other ends in its own last
  -- character, which is none.
  by_cases hlast : last = ""
  · subst hlast
    have hslash : written (others ++ [""]) = written others ++ ['/'] := hwritten
    have hend : (written others ++ ['/']).getLast? = some '/' := List.getLast?_concat
    simp only [hslash, stemChars, if_pos hend, List.dropLast_concat]
    by_cases hothers : others = []
    · subst hothers
      rfl
    · simp only [front, trimEnd_concat_empty hothers, written_eq_slash_iff]
      split <;> rfl
  · have hchars : last.toList ≠ [] := fun heq => hlast (String.toList_eq_nil_iff.mp heq)
    obtain ⟨cs, c, hcs⟩ : ∃ cs c, last.toList = cs ++ [c] :=
      ⟨_, _, (List.dropLast_concat_getLast hchars).symm⟩
    have hc : c ≠ '/' := by
      rintro rfl
      have hmem : '/' ∈ last.toList := by
        rw [hcs]
        exact List.mem_concat_self
      exact h last (by simp) hmem
    have hend : (written (others ++ [last])).getLast? = some c := by
      rw [hwritten, hcs, ← List.cons_append, ← List.append_assoc]
      exact List.getLast?_concat
    have hnotslash : (written (others ++ [last])).getLast? ≠ some '/' := by
      rw [hend]
      simpa using hc
    have hnames : others ++ [last] ≠ [""] := by
      intro heq
      rw [heq] at hnotslash
      exact hnotslash rfl
    have hwhole : written (others ++ [last]) ≠ ['/'] := fun heq =>
      hnames (written_eq_slash_iff.mp heq)
    simp only [front, trimEnd_concat_of_ne hlast, if_neg hnames, stemChars, if_neg hnotslash,
      if_neg hwhole]

/-- The ways in which a dot can end. -/
theorem getLast?_of_dropDot? {piece rest : List Char} (h : dropDot? piece = some rest) :
    ∃ dot, piece = dot ++ rest ∧ dot.getLast? ∈ [some '.', some 'e', some 'E'] := by
  unfold dropDot? at h
  split at h
  · cases h
    exact ⟨['.'], rfl, by decide⟩
  · cases h
    exact ⟨['%', '2', 'e'], rfl, by decide⟩
  · cases h
    exact ⟨['%', '2', 'E'], rfl, by decide⟩
  · cases h

/-- A piece that ends in anything else is not made of dots. -/
theorem not_dots_of_getLast? {piece : List Char}
    (h : piece.getLast? ∉ [some '.', some 'e', some 'E']) :
    isDot piece = false ∧ isDoubleDot piece = false := by
  constructor
  · refine Bool.eq_false_iff.mpr fun hdot => ?_
    rw [isDot, decide_eq_true_eq] at hdot
    obtain ⟨dot, rfl, hlast⟩ := getLast?_of_dropDot? hdot
    rw [List.append_nil] at h
    exact h hlast
  · refine Bool.eq_false_iff.mpr fun hdots => ?_
    rw [isDoubleDot, decide_eq_true_eq, Option.bind_eq_some_iff] at hdots
    obtain ⟨rest, hfirst, hsecond⟩ := hdots
    obtain ⟨first, rfl, -⟩ := getLast?_of_dropDot? hfirst
    obtain ⟨second, rfl, hlast⟩ := getLast?_of_dropDot? hsecond
    rw [List.append_nil, List.getLast?_append] at h
    cases hend : second.getLast? with
    | none =>
      rw [hend] at hlast
      simp at hlast
    | some c =>
      rw [hend] at h hlast
      exact h hlast

/-- A name that is not made of dots is appended as one segment. -/
theorem push_of_not_dots {names : List String} {name : String}
    (hname : name ≠ "." ∧ name ≠ "..")
    (hpiece : (pieceOf .special name).getLast? ∉ [some '.', some 'e', some 'E']) :
    push .special names name = (if names = [""] then [] else names) ++
      [String.ofList (pieceOf .special name)] := by
  obtain ⟨hdot, hdots⟩ := not_dots_of_getLast? hpiece
  have hkind : SchemeKind.special ≠ .file := by decide
  rw [push, if_neg (not_or.mpr hname), Walk.along, Walk.lastStep, Walk.step,
    Walk.isParted_of_ne_file hkind, Walk.add_of_ne_file hkind]
  simp only [hdot, hdots, Bool.false_eq_true, if_false, or_self, and_false]

end UrlPath

/-- The name of the file with the catalog of a locale, as one segment of a path. -/
def Locale.fileName (l : Locale) : String :=
  String.ofList (UrlPath.pieceOf .special (l.code ++ ".json"))

/-- A file name is the code with its delimiters escaped, and its ending. -/
theorem Locale.toList_fileName (l : Locale) :
    l.fileName.toList =
      Percent.encode Percent.inSpecialSegment (Url.visible l.code.toList) ++ ".json".toList := by
  have hending : Percent.encode Percent.inSpecialSegment (Url.visible ".json".toList) =
      ".json".toList := by decide
  rw [fileName, String.toList_ofList, UrlPath.pieceOf, String.toList_append, Url.visible,
    List.filter_append, ← Url.visible, ← Url.visible, if_pos (by decide), Percent.encode_append,
    hending]

/-- A file name ends in the last letter of its ending. -/
theorem Locale.getLast?_fileName (l : Locale) : l.fileName.toList.getLast? = some 'n' := by
  rw [l.toList_fileName, List.getLast?_append]
  rfl

/-- A file name has nothing in it that would end a segment or a path. -/
theorem Locale.not_mem_fileName (l : Locale) {c : Char} (hc : c ∈ ['/', '\\', '?', '#']) :
    c ∉ l.fileName.toList := by
  rw [fileName, String.toList_ofList]
  simp only [List.mem_cons, List.not_mem_nil, or_false] at hc
  rcases hc with rfl | rfl | rfl | rfl
  · exact Percent.not_mem_encode_of_escapes (by decide) (by decide) _
  · exact Percent.not_mem_encode_of_escapes (by decide) (by decide) _
  · exact Percent.not_mem_encode_of_escapes (by decide) (by decide) _
  · exact Percent.not_mem_encode_of_escapes (by decide) (by decide) _

/-- The catalog of a locale under a base of the web is the file of its name in the directory
`locales`. -/
theorem catalogUrl?_of_segments {base : Url} {names : List String} (l : Locale)
    (hkind : base.kind = .special) (hbase : base.cannotBeBase = false)
    (hpath : base.path = .segments names) :
    catalogUrl? base l = some { base with
      path := .segments (UrlPath.front names ++ ["locales", l.fileName]) } := by
  have hlocales : UrlPath.push .special (UrlPath.trimEnd names) "locales" =
      UrlPath.front names ++ ["locales"] := by
    have hpiece : UrlPath.pieceOf .special "locales" = "locales".toList := by decide
    rw [UrlPath.push_of_not_dots (by decide) (by rw [hpiece]; decide), hpiece,
      String.ofList_toList, UrlPath.front]
  -- The file name is pushed behind a name, so no empty segment is replaced.
  have hne : UrlPath.front names ++ ["locales"] ≠ [""] := by
    intro heq
    have hlast := congrArg List.getLast? heq
    rw [List.getLast?_concat] at hlast
    simp at hlast
  have hfile : UrlPath.push .special (UrlPath.front names ++ ["locales"]) (l.code ++ ".json") =
      UrlPath.front names ++ ["locales"] ++ [l.fileName] := by
    have hlong : 5 ≤ (l.code ++ ".json").length := by
      rw [String.length_append]
      exact Nat.le_add_left 5 l.code.length
    have hname : l.code ++ ".json" ≠ "." ∧ l.code ++ ".json" ≠ ".." := by
      constructor <;> intro heq <;> rw [heq] at hlong <;> revert hlong <;> decide
    have hlast := l.getLast?_fileName
    rw [Locale.fileName, String.toList_ofList] at hlast
    rw [UrlPath.push_of_not_dots hname (by rw [hlast]; decide), if_neg hne]
    rfl
  rw [catalogUrl?, Url.append?, hpath]
  dsimp only
  rw [hbase, if_neg Bool.false_ne_true, hkind, List.foldl_cons, List.foldl_cons, List.foldl_nil,
    hlocales, hfile, List.append_assoc]
  rfl

/-- The catalog of a locale under a base that was read stands in the directory `locales`, behind the
stem of the path of the base. -/
theorem exists_catalogUrl?_of_parse {text : String} {base : Url}
    (hparse : Url.parse text = .ok base) (hweb : base.scheme = "http" ∨ base.scheme = "https")
    (l : Locale) :
    ∃ u, catalogUrl? base l = some u ∧ u = { base with path := u.path } ∧
      u.path.render = UrlPath.stem base.path.render ++ "/locales/" ++ l.fileName := by
  have hkind : base.kind = .special := by
    rw [Url.kind]
    rcases hweb with hscheme | hscheme <;> rw [hscheme] <;> decide
  obtain ⟨hauthority, names, hpath, hslashes, hne⟩ := Url.segments_of_parse hparse hkind
  obtain ⟨a, ha⟩ := Option.isSome_iff_exists.mp hauthority
  have hbase : base.cannotBeBase = false := by rw [Url.cannotBeBase, ha]
  refine ⟨_, catalogUrl?_of_segments l hkind hbase hpath, rfl, ?_⟩
  refine String.toList_inj.mp ?_
  have hstem : (UrlPath.stem base.path.render).toList = UrlPath.written (UrlPath.front names) := by
    rw [UrlPath.stem, String.toList_ofList, hpath, UrlPath.toList_render_segments,
      UrlPath.written_front hne hslashes]
  have hfile : UrlPath.written ["locales", l.fileName] =
      "/locales/".toList ++ l.fileName.toList := by
    simp [UrlPath.written]
  rw [UrlPath.toList_render_segments, UrlPath.written_append, hfile, String.toList_append,
    String.toList_append, hstem, List.append_assoc]

/-- The catalog of a locale stays in the directory `locales` under a base of the web, whatever
characters the code has. The URL is that of the base but for the path, which is the stem of the
path of the base, the directory, and a file name in which nothing ends a segment or a path, and
which is not made of dots. A slash more at the end of the base makes no difference to the URL. -/
theorem catalogUrl?_in_directory {text : String} {base : Url}
    (hparse : Url.parse text = .ok base) (hweb : base.scheme = "http" ∨ base.scheme = "https")
    (l : Locale) :
    (∃ u, catalogUrl? base l = some u ∧ u = { base with path := u.path } ∧
      u.path.render = UrlPath.stem base.path.render ++ "/locales/" ++ l.fileName) ∧
    (l.fileName ≠ "" ∧ ".json".toList <:+ l.fileName.toList ∧
      (∀ c ∈ ['/', '\\', '?', '#'], c ∉ l.fileName.toList) ∧
      UrlPath.isDot l.fileName.toList = false ∧
      UrlPath.isDoubleDot l.fileName.toList = false) ∧
    (∀ otherText other, Url.parse otherText = .ok other →
      other = { base with path := other.path } →
      base.path.render.toList.getLast? ≠ some '/' →
      other.path.render = base.path.render ++ "/" →
      (catalogUrl? other l).map Url.render = (catalogUrl? base l).map Url.render) := by
  have hlast := l.getLast?_fileName
  refine ⟨exists_catalogUrl?_of_parse hparse hweb l, ⟨?_, ?_, ?_, ?_⟩, ?_⟩
  · intro heq
    rw [heq] at hlast
    cases hlast
  · rw [l.toList_fileName]
    exact List.suffix_append _ _
  · exact fun c hc => l.not_mem_fileName hc
  · exact UrlPath.not_dots_of_getLast? (by rw [hlast]; decide)
  · intro otherText other hother hsame hend hslash
    -- Both bases have the same stem, since it leaves out the slash at the end.
    obtain ⟨u, hu, hparts, hpath⟩ := exists_catalogUrl?_of_parse hparse hweb l
    have hscheme : other.scheme = base.scheme := by rw [hsame]
    obtain ⟨v, hv, hparts', hpath'⟩ :=
      exists_catalogUrl?_of_parse hother (hscheme ▸ hweb) l
    have hstem : UrlPath.stem other.path.render = UrlPath.stem base.path.render := by
      rw [UrlPath.stem, UrlPath.stem, hslash, String.toList_append]
      exact congrArg String.ofList (UrlPath.stemChars_append_slash hend)
    have hpaths : v.path.render = u.path.render := by rw [hpath', hpath, hstem]
    rw [hu, hv, Option.map_some, Option.map_some, hparts', hparts, hsame]
    simp only [Url.render, Url.renderAuthority, hpaths]

set_option maxRecDepth 10000 in
/-- A code that would leave the directory stays there, and the slash at the end of the base does not
count. -/
theorem catalogUrl?_in_directory_secret :
    ∃ base u, Url.parse "https://cdn.example.com/ui/" = .ok base ∧
      catalogUrl? base ⟨"../secret"⟩ = some u ∧ u.scheme = "https" ∧
      u.path.render = "/ui/locales/..%2Fsecret.json" := by
  let base : Url := {
    scheme := "https", authority := some { host := some (.domain "cdn.example.com") }
    path := .segments ["ui", ""], query := none, fragment := none }
  have hread : (Url.parse "https://cdn.example.com/ui/").toOption = some base := by decide +kernel
  have hparse : Url.parse "https://cdn.example.com/ui/" = .ok base :=
    Except.toOption_eq_some_iff.mp hread
  obtain ⟨⟨u, hu, hparts, hpath⟩, -⟩ :=
    catalogUrl?_in_directory hparse (.inr rfl) ⟨"../secret"⟩
  refine ⟨base, u, hparse, hu, congrArg Url.scheme hparts, hpath.trans ?_⟩
  decide +kernel

end Phrasebook
