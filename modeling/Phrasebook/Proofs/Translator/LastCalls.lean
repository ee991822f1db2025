import Phrasebook.Loader
import Phrasebook.Proofs.Updates

/-!
# What a translator shows of its history

All that a translator shows of the calls it was given is the locale that they made active last, and
the catalogs that they registered last for this locale and for the fallback. So histories that agree
on these give the same look-ups, and a call that a later one supersedes never shows.
-/

namespace Phrasebook

namespace EngineCall

/-- The locale that a call makes active. -/
def activates? : EngineCall → Option Locale
  | .register _ _ => none
  | .setActive l => some l

/-- The catalog that a call registers for a locale. -/
def registers? (l : Locale) : EngineCall → Option Catalog
  | .register m c => if m = l then some c else none
  | .setActive _ => none

/-- The locale that some calls made active last. -/
def lastActive? (calls : List EngineCall) : Option Locale := (calls.filterMap activates?).getLast?

/-- The catalog that some calls registered last for a locale. -/
def lastCatalog? (l : Locale) (calls : List EngineCall) : Option Catalog :=
  (calls.filterMap (registers? l)).getLast?

/-- Where one locale is active and another one is the fallback, a call does not show if a later one
makes a locale active again, or registers a catalog for the same locale again, or if it registers a
catalog for neither of the two. -/
inductive Superseded (active fallback : Locale) : EngineCall → List EngineCall → Prop
  | activation {l m : Locale} {later : List EngineCall} (h : .setActive m ∈ later) :
      Superseded active fallback (.setActive l) later
  | registration {l : Locale} {c d : Catalog} {later : List EngineCall}
      (h : .register l d ∈ later) : Superseded active fallback (.register l c) later
  | unused {l : Locale} {c : Catalog} {later : List EngineCall} (hactive : l ≠ active)
      (hfallback : l ≠ fallback) : Superseded active fallback (.register l c) later

/-- A registration is one for its own locale. -/
@[simp] theorem registers?_register_self (l : Locale) (c : Catalog) :
    registers? l (.register l c) = some c := if_pos rfl

/-- A registration is none for any other locale. -/
theorem registers?_register_of_ne {l m : Locale} (c : Catalog) (h : m ≠ l) :
    registers? l (.register m c) = none := if_neg h

/-- Without a superseded call the same locale is active last. -/
theorem Superseded.lastActive?_eq {active fallback : Locale} {call : EngineCall}
    {later : List EngineCall} (h : Superseded active fallback call later)
    (before : List EngineCall) :
    lastActive? (before ++ call :: later) = lastActive? (before ++ later) := by
  refine List.getLast?_filterMap_dropped before ?_
  cases h with
  | @activation l m later hmem =>
    right
    exact ⟨_, hmem, Option.some_ne_none m⟩
  | registration _ => exact .inl rfl
  | unused _ _ => exact .inl rfl

/-- Without a superseded call the locales that show have the same catalogs. -/
theorem Superseded.lastCatalog?_eq {active fallback l : Locale} {call : EngineCall}
    {later : List EngineCall} (h : Superseded active fallback call later)
    (hl : l = active ∨ l = fallback) (before : List EngineCall) :
    lastCatalog? l (before ++ call :: later) = lastCatalog? l (before ++ later) := by
  refine List.getLast?_filterMap_dropped before ?_
  cases h with
  | activation _ => exact .inl rfl
  | @registration m c d later hmem =>
    by_cases hm : m = l
    · right
      subst hm
      refine ⟨_, hmem, ?_⟩
      rw [registers?_register_self]
      exact Option.some_ne_none d
    · exact .inl (registers?_register_of_ne c hm)
  | @unused m c later hactive hfallback =>
    left
    refine registers?_register_of_ne c ?_
    rintro rfl
    exact hl.elim hactive hfallback

/-- A further catalog of another locale changes nothing for a locale. -/
theorem lastCatalog?_insert_of_ne {l m : Locale} (c : Catalog) (h : m ≠ l)
    (before after : List EngineCall) :
    lastCatalog? l (before ++ .register m c :: after) = lastCatalog? l (before ++ after) :=
  List.getLast?_filterMap_dropped before (.inl (registers?_register_of_ne c h))

/-- A registration makes no locale active, wherever it stands among the calls. -/
theorem lastActive?_insert_register (l : Locale) (c : Catalog) (before after : List EngineCall) :
    lastActive? (before ++ .register l c :: after) = lastActive? (before ++ after) :=
  List.getLast?_filterMap_dropped before (.inl rfl)

end EngineCall

namespace Translator

open EngineCall (activates? registers? lastActive? lastCatalog? Superseded)

/-- The translator with a fallback locale behind some calls. -/
def after (f : Locale) (calls : List EngineCall) : Translator :=
  calls.foldl Translator.apply (.withFallback f)

/-- Behind a call the locale is active that it makes so, or else the one that was. -/
theorem active_apply (t : Translator) (call : EngineCall) :
    (t.apply call).active = (activates? call).getD t.active := by
  cases call <;> rfl

/-- No call changes the fallback locale. -/
theorem fallback_apply (t : Translator) (call : EngineCall) :
    (t.apply call).fallback = t.fallback := by
  cases call <;> rfl

/-- Behind a call a locale has the catalog that the call registers for it, or else the one it
had. -/
theorem catalog?_apply (t : Translator) (call : EngineCall) (l : Locale) :
    (t.apply call).catalog? l = (registers? l call).or (t.catalog? l) := by
  cases call with
  | setActive m => rfl
  | register m c =>
    rw [apply, register, catalog?]
    by_cases hm : m = l
    · subst hm
      rw [KeyMap.find?_insert_self, EngineCall.registers?_register_self]
      rfl
    · have hcode : l.code ≠ m.code := fun hcode => hm (congrArg Locale.mk hcode.symm)
      rw [KeyMap.find?_insert_of_ne _ _ hcode, EngineCall.registers?_register_of_ne c hm]
      rfl

/-- Behind some calls the locale is active that was made so last, or else the fallback. -/
theorem active_after (f : Locale) (calls : List EngineCall) :
    (after f calls).active = (lastActive? calls).getD f :=
  List.foldl_view_eq_last Translator.active active_apply (.withFallback f) calls

/-- Behind some calls the fallback locale is what it was at the beginning. -/
theorem fallback_after (f : Locale) (calls : List EngineCall) : (after f calls).fallback = f := by
  suffices ∀ t : Translator, (calls.foldl Translator.apply t).fallback = t.fallback from
    this (.withFallback f)
  induction calls with
  | nil => exact fun _ => rfl
  | cons call rest ih => exact fun t => (ih (t.apply call)).trans (t.fallback_apply call)

/-- Behind some calls a locale has the catalog that was registered for it last. -/
theorem catalog?_after (f : Locale) (calls : List EngineCall) (l : Locale) :
    (after f calls).catalog? l = lastCatalog? l calls := by
  have hlast := List.foldl_view?_eq_last (fun t : Translator => t.catalog? l)
    (fun t call => t.catalog?_apply call l) (.withFallback f) calls
  have hnone : (withFallback f).catalog? l = none := rfl
  rw [after, hlast, hnone, Option.or_none, lastCatalog?]

/-- A look-up takes the message of the active locale, or else that of the fallback. -/
theorem lookup?_eq_or (t : Translator) (key : String) :
    t.lookup? key = (t.messageIn? t.active key).or (t.messageIn? t.fallback key) := by
  rw [lookup?, find?]
  cases t.messageIn? t.active key with
  | some text => rfl
  | none => cases t.messageIn? t.fallback key <;> rfl

/-- Behind some calls a look-up takes the message in the last catalog of the last active locale, or
else the one in the last catalog of the fallback. -/
theorem lookup?_after (f : Locale) (calls : List EngineCall) (key : String) :
    (after f calls).lookup? key =
      ((lastCatalog? ((lastActive? calls).getD f) calls).bind (·.message? key)).or
        ((lastCatalog? f calls).bind (·.message? key)) := by
  rw [lookup?_eq_or, messageIn?, messageIn?, active_after, fallback_after, catalog?_after,
    catalog?_after]

/-- Look-ups are the same behind calls that agree on the last active locale and on the last catalogs
of this locale and of the fallback. -/
theorem lookup?_after_congr {f : Locale} {calls others : List EngineCall}
    (hactive : (lastActive? others).getD f = (lastActive? calls).getD f)
    (hcatalog : lastCatalog? ((lastActive? calls).getD f) others =
      lastCatalog? ((lastActive? calls).getD f) calls)
    (hfallback : lastCatalog? f others = lastCatalog? f calls) (key : String) :
    (after f others).lookup? key = (after f calls).lookup? key := by
  rw [lookup?_after, lookup?_after, hactive, hcatalog, hfallback]

/-- What the active catalog answers does not depend on the catalogs of the fallback. -/
theorem lookup?_after_of_active {f : Locale} {calls others : List EngineCall}
    (hactive : (lastActive? others).getD f = (lastActive? calls).getD f)
    (hcatalog : lastCatalog? ((lastActive? calls).getD f) others =
      lastCatalog? ((lastActive? calls).getD f) calls)
    {key text : String}
    (hanswer : (lastCatalog? ((lastActive? calls).getD f) calls).bind (·.message? key) =
      some text) :
    (after f others).lookup? key = some text := by
  rw [lookup?_after, hactive, hcatalog, hanswer, Option.some_or]

/-- A look-up finds the message in the last catalog of the locale that was made active last, which
is the fallback if none was, or else the message in the last catalog of the fallback; a key without
either is its own translation. So calls that agree on these show the same, a superseded call does
not show, and what the active catalog answers stays the same whatever catalogs the fallback has had:
where another locale is active, a further catalog of the fallback changes none of its answers. -/
theorem lookups_follow_last_calls (f : Locale) (calls : List EngineCall) :
    let active := (lastActive? calls).getD f
    let found := fun key => ((lastCatalog? active calls).bind (·.message? key)).or
      ((lastCatalog? f calls).bind (·.message? key))
    (∀ key, (after f calls).lookup? key = found key ∧
      (after f calls).translate key = (found key).getD key) ∧
    (∀ others, (lastActive? others).getD f = active →
      lastCatalog? active others = lastCatalog? active calls →
      lastCatalog? f others = lastCatalog? f calls →
      ∀ key, (after f others).lookup? key = (after f calls).lookup? key) ∧
    (∀ before call later, calls = before ++ call :: later → Superseded active f call later →
      ∀ key, (after f (before ++ later)).lookup? key = (after f calls).lookup? key) ∧
    ∀ key text, (lastCatalog? active calls).bind (·.message? key) = some text →
      (∀ others, (lastActive? others).getD f = active →
        lastCatalog? active others = lastCatalog? active calls →
        (after f others).lookup? key = some text) ∧
      (active ≠ f → ∀ before c later, calls = before ++ later →
        (after f (before ++ .register f c :: later)).lookup? key = some text) := by
  intro active found
  refine ⟨fun key => ?_, fun others hactive hcatalog hfallback key => ?_, ?_, ?_⟩
  · have hlookup : (after f calls).lookup? key = found key := lookup?_after f calls key
    exact ⟨hlookup, by rw [translate, hlookup]⟩
  · exact lookup?_after_congr hactive hcatalog hfallback key
  · rintro before call later hcalls hsuperseded key
    have hactive : (lastActive? (before ++ later)).getD f = active := by
      rw [← hsuperseded.lastActive?_eq before, ← hcalls]
    have hcatalog := hsuperseded.lastCatalog?_eq (.inl rfl) before
    have hfallback := hsuperseded.lastCatalog?_eq (.inr rfl) before
    rw [← hcalls] at hcatalog hfallback
    exact lookup?_after_congr hactive hcatalog.symm hfallback.symm key
  · intro key text hanswer
    refine ⟨fun others hactive hcatalog => lookup?_after_of_active hactive hcatalog hanswer, ?_⟩
    -- A registration for the fallback touches neither the active locale nor its catalog.
    rintro hne before c later hcalls
    have hactive : lastActive? (before ++ .register f c :: later) = lastActive? calls := by
      rw [EngineCall.lastActive?_insert_register, hcalls]
    have hcatalog := EngineCall.lastCatalog?_insert_of_ne c (Ne.symm hne) before later
    rw [← hcalls] at hcatalog
    exact lookup?_after_of_active (congrArg (·.getD f) hactive) hcatalog hanswer

/-- Where the active catalog has a group, the message of the fallback is found. -/
example :
    let french : Catalog := ⟨[("menu", .group [("help", .message "Aide")])], by decide⟩
    let english : Catalog := ⟨[("menu", .message "Menu")], by decide⟩
    let t := after ⟨"en"⟩ [.setActive ⟨"fr"⟩, .register ⟨"fr"⟩ french, .register ⟨"en"⟩ english]
    t.lookup? "menu" = some "Menu" ∧ t.translate "menu.help" = "Aide" := by
  decide

end Translator

end Phrasebook
