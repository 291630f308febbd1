import Mailshot.Proofs.Audience.Operators
import Mailshot.Proofs.Text.Lowercase

/-!
# Searching a text for a value

A field that is a text contains a value if the lowercased text holds the lowercased value.  Both are
lowercased by themselves, so it takes an argument that a value is found where it stands as it was
written: the part of the text has to become what the value becomes.

It does but for one letter.  A capital sigma has one small form at the end of a word and another one
elsewhere, and what ends a word in the value may stand inside of a word in the text.  So the value
is in its place in the lowercased text, but perhaps with other sigmas (`exists_lowercase_part`).  It
is found if its sigmas end words in the text where they do in the value
(`Condition.contains_of_part`), and otherwise it may be missed (`Condition.contains_misses_part`).
-/

set_option autoImplicit false

namespace Mailshot

/-- **A part of a text has a place in the lowercased text.**  In front of it stands what is in front
of the part, and in its place the part, both but for the form of their sigmas; and it is what the
part is by itself just if the sigmas take the same form. -/
theorem exists_lowercase_part {s t : String} {before after : List Char}
    (hpart : s.toList = before ++ (t.toList ++ after)) :
    ∃ front found back, (lowercase s).toList = front ++ (found ++ back) ∧
      front.map oneSigma = (lowercaseChars before).map oneSigma ∧
      found.map oneSigma = (lowercase t).toList.map oneSigma ∧
      (found = (lowercase t).toList ↔ SameSigmas before.reverse after [] [] t.toList) := by
  refine ⟨lowercaseBetween [] (t.toList ++ after) before,
    lowercaseBetween before.reverse after t.toList,
    lowercaseFrom (t.toList.reverse ++ before.reverse) after, ?_, ?_, ?_, ?_⟩
  · rw [toList_lowercase, hpart, lowercaseChars_append]
  · rw [map_oneSigma_eq [] _ [] [], lowercaseBetween_nil]
  · rw [map_oneSigma_eq _ _ [] [], lowercaseBetween_nil, toList_lowercase]
  · rw [← lowercaseBetween_eq_iff, lowercaseBetween_nil, toList_lowercase]

namespace Condition

variable {contact : Contact} {field s t : String} {v : Json}

/-- On a field that is a text, to contain a value is to hold it with letter case put aside. -/
theorem holds_contains_iff (hnamed : trim field ≠ "")
    (hview : contact.field (trim field) = .text s) (form : v.HasText t) (notBlank : trim t ≠ "")
    (logic : Logic) :
    (alone ⟨field, .contains, v⟩ logic).compile.holds contact = true ↔
      (lowercase (trim t)).toList <:+: (lowercase s).toList := by
  rw [holds_compile_alone_iff]
  constructor
  · rintro ⟨-, hasks⟩
    rw [hview] at hasks
    rcases hasks with ⟨form', -, hpart⟩ | ⟨⟨⟩⟩
    rwa [form'.unique form] at hpart
  · intro hpart
    refine ⟨hnamed, ?_⟩
    rw [hview]
    exact .text form notBlank hpart

/-- **What stands in a text as it is written is found**, if the capital sigmas of the value end
words where it stands just where they do in the value by itself; so it is if the value has none.
Otherwise it is in its place but for the two forms of the small sigma, so it may be missed. -/
theorem contains_of_part (hnamed : trim field ≠ "") (hview : contact.field (trim field) = .text s)
    (form : v.HasText t) (notBlank : trim t ≠ "") {before after : List Char}
    (hpart : s.toList = before ++ ((trim t).toList ++ after)) (logic : Logic) :
    (SameSigmas before.reverse after [] [] (trim t).toList →
      (alone ⟨field, .contains, v⟩ logic).compile.holds contact = true) ∧
    ('Σ' ∉ (trim t).toList →
      (alone ⟨field, .contains, v⟩ logic).compile.holds contact = true) ∧
    ∃ front found back, (lowercase s).toList = front ++ (found ++ back) ∧
      front.map oneSigma = (lowercaseChars before).map oneSigma ∧
      found.map oneSigma = (lowercase (trim t)).toList.map oneSigma ∧
      (found = (lowercase (trim t)).toList ↔
        SameSigmas before.reverse after [] [] (trim t).toList) := by
  have hplace := exists_lowercase_part hpart
  have hfound (hsigmas : SameSigmas before.reverse after [] [] (trim t).toList) :
      (alone ⟨field, .contains, v⟩ logic).compile.holds contact = true := by
    obtain ⟨front, found, back, htext, -, -, hsame⟩ := hplace
    rw [holds_contains_iff hnamed hview form notBlank, ← hsame.2 hsigmas, htext]
    exact ⟨front, back, List.append_assoc ..⟩
  exact ⟨hfound, fun hnone => hfound (sameSigmas_of_notMem hnone), hplace⟩

/-- A value whose last sigma ends a word in the text too. -/
theorem contains_of_whole_word :
    let contact := { Contact.ofIdentity "a" "t" with company := some "ΟΔΟΣ ΣΟΦΟΣ" }
    contact.field (trim "company") = .text "ΟΔΟΣ ΣΟΦΟΣ" ∧
      "ΟΔΟΣ ΣΟΦΟΣ".toList = ['Ο'] ++ ((trim " ΔΟΣ").toList ++ " ΣΟΦΟΣ".toList) ∧
      SameSigmas ['Ο'] " ΣΟΦΟΣ".toList [] [] (trim " ΔΟΣ").toList ∧
      (alone ⟨"company", .contains, .string " ΔΟΣ"⟩ .all).compile.holds contact = true := by
  have hpart : "ΟΔΟΣ ΣΟΦΟΣ".toList = ['Ο'] ++ ((trim " ΔΟΣ").toList ++ " ΣΟΦΟΣ".toList) := by
    decide
  have hsigmas : SameSigmas ['Ο'] " ΣΟΦΟΣ".toList [] [] (trim " ΔΟΣ").toList := by
    decide +kernel
  exact ⟨by decide, hpart, hsigmas,
    (contains_of_part (by decide) (by decide) (.string " ΔΟΣ") (by decide) hpart .all).1 hsigmas⟩

/-- A value that stands at the beginning of a longer word, and whose last letter is a sigma, is not
found there. -/
theorem contains_misses_part :
    let contact := { Contact.ofIdentity "a" "t" with company := some "ΟΔΟΣΗΜΑΝΣΗ" }
    trim "company" ≠ "" ∧ contact.field (trim "company") = .text "ΟΔΟΣΗΜΑΝΣΗ" ∧
      (Json.string "ΟΔΟΣ").HasText "ΟΔΟΣ" ∧ trim "ΟΔΟΣ" ≠ "" ∧
      (trim "ΟΔΟΣ").toList <:+: "ΟΔΟΣΗΜΑΝΣΗ".toList ∧
      (alone ⟨"company", .contains, .string "ΟΔΟΣ"⟩ .all).compile.holds contact = false :=
  ⟨by decide, by decide, .string "ΟΔΟΣ", by decide, ⟨[], "ΗΜΑΝΣΗ".toList, by decide⟩,
    by decide +kernel⟩

end Condition
end Mailshot
