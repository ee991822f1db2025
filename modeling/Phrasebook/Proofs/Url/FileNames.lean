import Phrasebook.Proofs.Url.CatalogUrl

/-!
# Which codes share a file

The last segment of a catalog URL is read back as the code without its tabs and line ends, and the
ending. So the URL names a code exactly if there are no such characters in it, and two codes share a
catalog URL exactly if they differ in nothing else.
-/

namespace Phrasebook

/-- The code of a locale as it counts in a URL, without tabs and line ends. -/
def Locale.visibleCode (l : Locale) : String := String.ofList (Url.visible l.code.toList)

/-- A code without tabs and line ends is visible as a whole. -/
theorem Locale.visibleCode_eq {l : Locale} (h : ∀ c ∈ l.code.toList, Url.isIgnored c = false) :
    l.visibleCode = l.code := by
  have hvisible : Url.visible l.code.toList = l.code.toList :=
    List.filter_eq_self.mpr fun c hc => by simp [h c hc]
  rw [visibleCode, hvisible, String.ofList_toList]

/-- The name of a catalog's file is read back as the visible code with its ending. -/
theorem Locale.toString?_decode_fileName (l : Locale) :
    Utf8.toString? (Percent.decode l.fileName.toList) = some (l.visibleCode ++ ".json") := by
  have hending : Percent.encode Percent.inSpecialSegment ".json".toList = ".json".toList := by
    decide
  have hcode : l.visibleCode.toList = Url.visible l.code.toList := String.toList_ofList
  rw [Utf8.toString?_eq_some_iff, l.toList_fileName, ← hending, ← Percent.encode_append,
    Percent.decode_encode Percent.isReversible_inSpecialSegment, Utf8.ofString,
    String.toList_append, hcode]

/-- Two codes have one file name exactly if the same of them is visible. -/
theorem Locale.fileName_eq_iff {a b : Locale} :
    a.fileName = b.fileName ↔ a.visibleCode = b.visibleCode := by
  constructor
  · intro h
    have hback := a.toString?_decode_fileName
    rw [h, b.toString?_decode_fileName, Option.some.injEq] at hback
    exact (String.append_left_inj _).mp hback.symm
  · intro h
    have hchars : Url.visible a.code.toList = Url.visible b.code.toList := String.ofList_inj.mp h
    rw [← String.toList_inj, a.toList_fileName, b.toList_fileName, hchars]

/-- URLs that differ in their path at most are written alike exactly if the paths are. -/
theorem Url.render_eq_iff_path {base u v : Url} (hu : u = { base with path := u.path })
    (hv : v = { base with path := v.path }) :
    u.render = v.render ↔ u.path.render = v.path.render := by
  rw [hu, hv]
  simp only [Url.render, Url.renderAuthority]
  rw [String.append_left_inj, String.append_left_inj, String.append_right_inj]

/-- What stands behind the last slash of a catalog URL under a base of the web is read back as the
visible code with its ending. So two codes have one catalog URL exactly if the same of them is
visible, and all of a code is visible that has no tab and no line end. -/
theorem catalogUrl?_names_visible_code {text : String} {base : Url}
    (hparse : Url.parse text = .ok base) (hweb : base.scheme = "http" ∨ base.scheme = "https") :
    (∀ l : Locale, ∃ u front name, catalogUrl? base l = some u ∧
      u.path.render = front ++ "/" ++ name ∧ UrlPath.NoSlash name.toList ∧
      Utf8.toString? (Percent.decode name.toList) = some (l.visibleCode ++ ".json")) ∧
    (∀ a b : Locale,
      (catalogUrl? base a).map Url.render = (catalogUrl? base b).map Url.render ↔
        a.visibleCode = b.visibleCode) ∧
    (∀ l : Locale, (∀ c ∈ l.code.toList, c ∉ ['\t', '\n', '\r']) → l.visibleCode = l.code) := by
  refine ⟨fun l => ?_, fun a b => ?_, fun l h => Locale.visibleCode_eq fun c hc => ?_⟩
  · obtain ⟨u, hu, -, hpath⟩ := exists_catalogUrl?_of_parse hparse hweb l
    refine ⟨u, UrlPath.stem base.path.render ++ "/locales", l.fileName, hu, ?_,
      l.not_mem_fileName List.mem_cons_self, l.toString?_decode_fileName⟩
    have hdirectory : "/locales/" = "/locales" ++ "/" := by decide
    rw [hpath, hdirectory, ← String.append_assoc]
  · obtain ⟨u, hu, hparts, hpath⟩ := exists_catalogUrl?_of_parse hparse hweb a
    obtain ⟨v, hv, hparts', hpath'⟩ := exists_catalogUrl?_of_parse hparse hweb b
    rw [hu, hv, Option.map_some, Option.map_some, Option.some.injEq,
      Url.render_eq_iff_path hparts hparts', hpath, hpath', String.append_right_inj,
      Locale.fileName_eq_iff]
  · have hc := h c hc
    simp only [List.mem_cons, List.not_mem_nil, or_false, not_or] at hc
    simp [Url.isIgnored, hc]

/-- A base whose path has a segment and a slash at its end. -/
def cdnBase : Url where
  scheme := "https"
  authority := some { host := some (.domain "cdn.example.com") }
  path := .segments ["ui", ""]
  query := none
  fragment := none

set_option maxRecDepth 10000 in
/-- The base URL is the one that its text gives. -/
theorem parse_cdnBase : Url.parse "https://cdn.example.com/ui/" = .ok cdnBase := by
  have hread : (Url.parse "https://cdn.example.com/ui/").toOption = some cdnBase := by
    decide +kernel
  exact Except.toOption_eq_some_iff.mp hread

/-- Blanks, percent signs and slashes are read back from the URL, so codes that differ in them have
different ones. -/
theorem catalogUrl?_names_visible_code_discount :
    Url.parse "https://cdn.example.com/ui/" = .ok cdnBase ∧
      (∃ u front name, catalogUrl? cdnBase ⟨"fr/100 %"⟩ = some u ∧
        u.path.render = front ++ "/" ++ name ∧ UrlPath.NoSlash name.toList ∧
        Utf8.toString? (Percent.decode name.toList) = some "fr/100 %.json") ∧
      (catalogUrl? cdnBase ⟨"fr/100 %"⟩).map Url.render ≠
        (catalogUrl? cdnBase ⟨"fr/100%"⟩).map Url.render := by
  obtain ⟨hnames, hshared, hvisible⟩ := catalogUrl?_names_visible_code parse_cdnBase (.inr rfl)
  have hblank : Locale.visibleCode ⟨"fr/100 %"⟩ = "fr/100 %" := hvisible _ (by simp)
  have hdense : Locale.visibleCode ⟨"fr/100%"⟩ = "fr/100%" := hvisible _ (by simp)
  refine ⟨parse_cdnBase, ?_, ?_⟩
  · have hread := hnames ⟨"fr/100 %"⟩
    rw [hblank] at hread
    exact hread
  · rw [ne_eq, hshared, hblank, hdense]
    decide

set_option maxRecDepth 10000 in
/-- Two codes of which one has a tab have one catalog URL, and what is read back from it has no
tab. -/
theorem tab_unnamed :
    Url.parse "https://cdn.example.com/ui/" = .ok cdnBase ∧
      (⟨"a\tb"⟩ : Locale) ≠ ⟨"ab"⟩ ∧
      (catalogUrl? cdnBase ⟨"a\tb"⟩).map Url.render =
        some "https://cdn.example.com/ui/locales/ab.json" ∧
      (catalogUrl? cdnBase ⟨"ab"⟩).map Url.render =
        some "https://cdn.example.com/ui/locales/ab.json" ∧
      Utf8.toString? (Percent.decode "ab.json".toList) ≠ some "a\tb.json" :=
  ⟨parse_cdnBase, by decide, by decide +kernel, by decide +kernel, by decide +kernel⟩

end Phrasebook
