import Phrasebook.Json.Printer
import Phrasebook.Proofs.Json.Grammar

/-!
# Printing values

What is printed for a string is a string of the grammar, and what is printed for an object is one if
this holds of its members.
-/

namespace Phrasebook.Json

/-- The digits that a control character is printed with. -/
theorem hexQuad_of_lt {n : Nat} (h : n < 0x20) :
    HexQuad n (['0', '0'] ++ (if n < 0x10 then ['0'] else []) ++ Text.hexDigits n) := by
  have hdigits : ∀ n < 0x20, (if n < 0x10 then ['0'] else []) ++ Text.hexDigits n =
      [Nat.digitChar (n / 16), Nat.digitChar (n % 16)] := by decide
  have hvalue : ∀ k < 0x10, hexDigit? (Nat.digitChar k) = some k := by decide
  have hzero := hvalue 0 (by omega)
  have hquad := HexQuad.mk hzero hzero (hvalue (n / 16) (by omega)) (hvalue (n % 16) (by omega))
  have hn : ((0 * 16 + 0) * 16 + n / 16) * 16 + n % 16 = n := by omega
  rw [hn] at hquad
  rw [List.append_assoc, hdigits n h]
  exact hquad

/-- A character is printed as itself or as an escape that stands for it. -/
theorem StringBody.escaped_append {c : Char} {cs t : List Char} (h : StringBody cs t) :
    StringBody (c :: cs) (Json.escaped c ++ t) := by
  unfold Json.escaped
  split
  case h_8 c hquote hbackslash _ _ _ _ _ =>
    split
    · rename_i hc
      have hescape := Escape.numbered (.inl (by omega)) (hexQuad_of_lt hc)
      rw [Char.ofNat_toNat] at hescape
      exact .escaped hescape h
    · rename_i hc
      exact .plain (Nat.not_lt.mp hc) hquote hbackslash h
  all_goals exact .escaped (.short (by decide)) h

/-- A string is printed as a string of the grammar. -/
theorem quoted_renderString (text : String) : Quoted text (renderString text) := by
  refine .mk ?_
  induction text.toList with
  | nil => exact .nil
  | cons c cs ih => exact ih.escaped_append

/-- A string is spelled by what is printed for it. -/
theorem spelled_render_string (text : String) :
    Spelled (.string text) (renderChars (.string text)) :=
  spelled_string_iff.mpr (quoted_renderString text)

/-- A member is printed without white space. -/
theorem padded_renderMember {key : String} {v : Json} (h : Spelled v v.renderChars) :
    Padded (Member Spelled) (key, v) (renderString key ++ ':' :: v.renderChars) := by
  have hblank : IsBlank [] := by simp [IsBlank]
  have hmember := Member.mk (quoted_renderString key) hblank hblank h
  have hpadded := Padded.mk hblank hmember hblank
  simpa using hpadded

/-- Members are printed with commas between them. -/
theorem separated_renderMembers {members : List (String × Json)} (hne : members ≠ [])
    (h : ∀ m ∈ members, Spelled m.2 m.2.renderChars) :
    Separated (Member Spelled) members (renderMembers members) := by
  induction members with
  | nil => exact absurd rfl hne
  | cons m rest ih =>
    obtain ⟨hm, hrest⟩ := List.forall_mem_cons.mp h
    cases rest with
    | nil => exact .one (padded_renderMember hm)
    | cons m' rest =>
      have hmore := ih (List.cons_ne_nil _ _) hrest
      have hall := Separated.more (@padded_renderMember m.1 m.2 hm) hmore
      have hbytes : renderMembers (m :: m' :: rest) =
          renderString m.1 ++ ':' :: m.2.renderChars ++ ',' :: renderMembers (m' :: rest) := rfl
      rw [hbytes]
      exact hall

/-- An object is printed as one of the grammar if its values are. -/
theorem spelled_render_object {members : List (String × Json)}
    (h : ∀ m ∈ members, Spelled m.2 m.2.renderChars) :
    Spelled (.object members) (renderChars (.object members)) := by
  rw [renderChars]
  refine .object (.mk ?_)
  cases members with
  | nil => exact .empty (by simp [renderMembers, IsBlank])
  | cons m rest => exact .separated (separated_renderMembers (List.cons_ne_nil _ _) h)

/-- What is printed for a value is a document, if it is a text of the value. -/
theorem Spelled.document_render {v : Json} (h : Spelled v v.renderChars) :
    Document v v.render.toList := by
  have hblank : IsBlank [] := by simp [IsBlank]
  have hdocument := Padded.mk hblank h hblank
  rw [List.nil_append, List.append_nil] at hdocument
  rw [render, String.toList_ofList]
  exact hdocument

end Phrasebook.Json
