import Mailshot.Json.Printer
import Mailshot.Proofs.Json.Number

/-!
# Reading what was printed

The text that a value is printed as is read as that value again.  The reader takes its text one
character at a time, so this is said of its state: `Reader.Behind` are the two states that it can be
in behind the text of a value, since a numeral is only known to be complete when something else
comes.  `Reader.reads_value` says that it gets there, whatever containers are open around the value.

* `Syntax.ofText?_print`: the text is read as the document of the value.
* `Syntax.toValue?_toSyntax`: the document is that of the value with its members in key order
  (`Json.ordered`), if no more containers are open inside each other than there is room for.

The numbers inside have to read back for themselves (`JsonNumber.ReadsBack`).
-/

set_option autoImplicit false

namespace Mailshot
namespace Json

mutual

/-- The numbers inside a value. -/
def numbers : Json → List JsonNumber
  | .number n => [n]
  | .array items => itemsNumbers items
  | .object members => membersNumbers members
  | _ => []

/-- The numbers inside the items of an array. -/
def itemsNumbers : List Json → List JsonNumber
  | [] => []
  | v :: vs => v.numbers ++ itemsNumbers vs

/-- The numbers inside the members of an object. -/
def membersNumbers : List (String × Json) → List JsonNumber
  | [] => []
  | (_, v) :: ms => v.numbers ++ membersNumbers ms

end

namespace Reader

/-! ## Characters in a row -/

/-- The reader gets from one state to another by taking some characters. -/
def Reads (cs : List Char) (s t : State) : Prop := cs.foldlM step s = some t

theorem Reads.nil (s : State) : Reads [] s s := rfl

theorem Reads.cons {c : Char} {cs : List Char} {s t u : State} (h : step s c = some t)
    (h' : Reads cs t u) : Reads (c :: cs) s u := by
  rw [Reads, List.foldlM_cons, h]
  exact h'

theorem Reads.single {c : Char} {s t : State} (h : step s c = some t) : Reads [c] s t :=
  .cons h (.nil t)

theorem Reads.append {cs cs' : List Char} {s t u : State} (h : Reads cs s t)
    (h' : Reads cs' t u) : Reads (cs ++ cs') s u := by
  rw [Reads, List.foldlM_append, show cs.foldlM step s = some t from h]
  exact h'

/-! ## Strings -/

theorem hexDigit?_hexChar {n : Nat} (h : n < 16) : hexDigit? (hexChar n) = some n := by
  have hall : ∀ n : Fin 16, hexDigit? (hexChar n) = some n.val := by decide
  exact hall ⟨n, h⟩

/-- A string of which these characters are read, in reverse. -/
def textOf (isKey : Bool) (read : List Char) : PartialText := { emptyText isKey with read }

/-- A number below the first printable character is that of the character it belongs to. -/
theorem pushUnit_textOf (isKey : Bool) (read : List Char) {c : Char} (h : c.toNat < 0x20) :
    (textOf isKey read).pushUnit c.toNat = textOf isKey (c :: read) := by
  have hhigh : ¬ (0xD800 ≤ c.toNat ∧ c.toNat ≤ 0xDBFF) := by omega
  have hlow : ¬ (0xDC00 ≤ c.toNat ∧ c.toNat ≤ 0xDFFF) := by omega
  simp [PartialText.pushUnit, textOf, emptyText, PartialText.push, hhigh, hlow, Char.ofNat_toNat]

theorem reads_escapeChar (c : Char) (isKey : Bool) (read : List Char) (stack : List Frame) :
    Reads (escapeChar c) ⟨.text (textOf isKey read), stack, none⟩
      ⟨.text (textOf isKey (c :: read)), stack, none⟩ := by
  unfold escapeChar
  split
  case h_8 hquote hslash _ _ _ _ _ =>
    split
    · next hcontrol =>
      -- a control, written as its number in four digits, the first two of which are zeros
      have hdiv := hexDigit?_hexChar (n := c.toNat / 16) (by omega)
      have hmod := hexDigit?_hexChar (n := c.toNat % 16) (by omega)
      have hvalue : 16 * (c.toNat / 16) + c.toNat % 16 = c.toNat := by omega
      have hthird : step ⟨.text { textOf isKey read with escape := .hex 2 0 }, stack, none⟩
          (hexChar (c.toNat / 16)) =
            some ⟨.text { textOf isKey read with escape := .hex 3 (c.toNat / 16) }, stack, none⟩ := by
        simp [step, stepText, hdiv]
      have hlast : step ⟨.text { textOf isKey read with escape := .hex 3 (c.toNat / 16) }, stack, none⟩
          (hexChar (c.toNat % 16)) = some ⟨.text (textOf isKey (c :: read)), stack, none⟩ := by
        rw [← pushUnit_textOf isKey read hcontrol]
        simp [step, stepText, hmod, hvalue]
        rfl
      exact .cons rfl (.cons rfl (.cons rfl (.cons rfl (.cons hthird (.single hlast)))))
    · next hshown =>
      refine .single ?_
      show stepText (textOf isKey read) stack c = _
      simp only [stepText, textOf, emptyText]
      rw [if_neg hquote, if_neg hslash, if_neg hshown]
      rfl
  all_goals exact .cons rfl (.single rfl)

theorem reads_chars (cs : List Char) (isKey : Bool) (read : List Char) (stack : List Frame) :
    Reads (cs.flatMap escapeChar) ⟨.text (textOf isKey read), stack, none⟩
      ⟨.text (textOf isKey (cs.reverse ++ read)), stack, none⟩ := by
  induction cs generalizing read with
  | nil => exact .nil _
  | cons c cs ih =>
    rw [List.flatMap_cons, List.reverse_cons, List.append_assoc]
    exact (reads_escapeChar c isKey read stack).append (ih (c :: read))

theorem content_textOf (isKey : Bool) (cs : List Char) :
    (textOf isKey (cs.reverse ++ [])).content = some (String.ofList cs) := by
  simp [PartialText.content, textOf, emptyText]

/-- A string in the place of a value. -/
theorem reads_string (s : String) (stack : List Frame) :
    Reads (printString s) ⟨.value, stack, none⟩ (deliver (.string (some s)) stack) := by
  refine .cons (t := ⟨.text (textOf false []), stack, none⟩) rfl
    ((reads_chars s.toList false [] stack).append (.single ?_))
  show some (deliver (.string (textOf false (s.toList.reverse ++ [])).content) stack) = _
  rw [content_textOf, String.ofList_toList]

/-- A string in the place of a key. -/
theorem reads_key {mode : Mode} (hmode : mode = .key ∨ mode = .firstKey) (k : String)
    (members : List (Option String × Syntax)) (key : Option String) (stack : List Frame) :
    Reads (printString k) ⟨mode, .object members key :: stack, none⟩
      ⟨.colon, .object members (some k) :: stack, none⟩ := by
  refine .cons (t := ⟨.text (textOf true []), .object members key :: stack, none⟩) ?_
    ((reads_chars k.toList true [] _).append (.single ?_))
  · rcases hmode with rfl | rfl <;> rfl
  · show some (⟨.colon, .object members (textOf true (k.toList.reverse ++ [])).content :: stack,
      none⟩ : State) = _
    rw [content_textOf, String.ofList_toList]

/-! ## Behind a value -/

/-- The states behind the text of a value: it is delivered, or it is a numeral that is complete as
soon as something comes that does not belong to it. -/
inductive Behind (v : Syntax) (stack : List Frame) : State → Prop
  | delivered : Behind v stack (deliver v stack)
  | numeral {read : List Char} (h : closeNumeral? read stack = some (deliver v stack)) :
      Behind v stack ⟨.numeral read, stack, none⟩

/-- What comes behind a value comes behind a delivered value. -/
theorem Behind.step_eq {v : Syntax} {stack : List Frame} {s : State} (h : Behind v stack s)
    {c : Char}
    (hc : isNumeral c = false) :
    step s c = stepAfter (deliver v stack).stack (deliver v stack).document c := by
  cases h with
  | delivered =>
    have hmode : (deliver v stack).mode = .after := by
      cases stack with
      | nil => rfl
      | cons frame rest => cases frame <;> rfl
    rw [step]
    split <;> simp_all
  | numeral h =>
    simp [step, hc, h]

/-- When the text ends behind a value, the value is the document. -/
theorem Behind.finish_eq {v : Syntax} {s : State} (h : Behind v [] s) : finish s = some v := by
  cases h with
  | delivered => rfl
  | numeral h =>
    show (closeNumeral? _ []).bind (·.document) = some v
    rw [h]
    rfl

/-- A minus sign or a digit begins a numeral and nothing else. -/
theorem step_numeral {mode : Mode} (hmode : mode = .value ∨ mode = .firstItem) {c : Char}
    (h : c = '-' ∨ c.isDigit = true) (stack : List Frame) :
    step ⟨mode, stack, none⟩ c = some ⟨.numeral [c], stack, none⟩ := by
  rcases h with rfl | hdigit
  · rcases hmode with rfl | rfl <;> rfl
  · have hne {x : Char} (hx : x.isDigit = false) : c ≠ x := by
      rintro rfl
      rw [hdigit] at hx
      cases hx
    have hgap : isGap c = false := by
      simp [isGap, hne (x := ' ') rfl, hne (x := '\n') rfl, hne (x := '\t') rfl,
        hne (x := '\r') rfl]
    have hvalue : stepValue stack c = some ⟨.numeral [c], stack, none⟩ := by
      simp [stepValue, hdigit, hne (x := '"') rfl, hne (x := '\x7b') rfl, hne (x := '[') rfl,
        hne (x := 't') rfl, hne (x := 'f') rfl, hne (x := 'n') rfl]
    rcases hmode with rfl | rfl <;> simp [step, hgap, hvalue, hne (x := ']') rfl]

theorem reads_numeral {cs : List Char} (h : Numeric cs) (read : List Char) (stack : List Frame) :
    Reads cs ⟨.numeral read, stack, none⟩ ⟨.numeral (cs.reverse ++ read), stack, none⟩ := by
  induction cs generalizing read with
  | nil => exact .nil _
  | cons c cs ih =>
    have hc : isNumeral c = true := h c List.mem_cons_self
    rw [List.reverse_cons, List.append_assoc]
    refine .cons ?_ (ih (fun d hd => h d (List.mem_cons_of_mem c hd)) (c :: read))
    simp [step, hc]

/-- The text of a number. -/
theorem reads_number {n : JsonNumber} (h : n.ReadsBack) (stack : List Frame) :
    ∃ s, Reads n.text.toList ⟨.value, stack, none⟩ s ∧ Behind (.number (some n)) stack s := by
  have hnumeric := n.numeric_text
  rw [JsonNumber.ReadsBack] at h
  obtain ⟨numeral, hparts, hvalue⟩ := Option.bind_eq_some_iff.1 h
  cases htext : n.text.toList with
  | nil =>
    rw [htext] at hparts
    cases hparts
  | cons c cs =>
    rw [htext] at hparts hnumeric
    have hcs : Numeric cs := fun d hd => hnumeric d (List.mem_cons_of_mem c hd)
    refine ⟨_, .cons (step_numeral (.inl rfl) (JsonNumber.isNumeral_head hparts) stack)
      (reads_numeral hcs [c] stack), .numeral ?_⟩
    rw [closeNumeral?, List.reverse_append, List.reverse_reverse, List.reverse_singleton,
      List.singleton_append, hparts, Option.map_some, hvalue]

/-! ## Values -/

/-- The text of a value has nothing in front that could stand behind an opening bracket alone. -/
theorem reads_firstItem {v : Json} (hv : ∀ n ∈ v.numbers, n.ReadsBack) {stack : List Frame}
    {s : State} (h : Reads v.printChars ⟨.value, stack, none⟩ s) :
    Reads v.printChars ⟨.firstItem, stack, none⟩ s := by
  cases v with
  | number n =>
    have hback : n.ReadsBack := hv n List.mem_cons_self
    rw [JsonNumber.ReadsBack] at hback
    obtain ⟨numeral, hparts, -⟩ := Option.bind_eq_some_iff.1 hback
    rw [printChars] at h ⊢
    cases htext : n.text.toList with
    | nil =>
      rw [htext] at hparts
      cases hparts
    | cons c cs =>
      rw [htext] at hparts h
      have hhead := JsonNumber.isNumeral_head hparts
      rw [Reads, List.foldlM_cons] at h ⊢
      rwa [step_numeral (.inr rfl) hhead, ← step_numeral (.inl rfl) hhead]
  | bool b => cases b <;> exact h
  | _ => exact h

mutual

/-- **Behind its text, a value is read**, whatever containers are open around it. -/
theorem reads_value (v : Json) (hv : ∀ n ∈ v.numbers, n.ReadsBack) (stack : List Frame) :
    ∃ s, Reads v.printChars ⟨.value, stack, none⟩ s ∧ Behind v.toSyntax stack s := by
  cases v with
  | null => exact ⟨_, .cons rfl (.cons rfl (.cons rfl (.single rfl))), .delivered⟩
  | bool b =>
    cases b with
    | true => exact ⟨_, .cons rfl (.cons rfl (.cons rfl (.single rfl))), .delivered⟩
    | false => exact ⟨_, .cons rfl (.cons rfl (.cons rfl (.cons rfl (.single rfl)))), .delivered⟩
  | number n => exact reads_number (hv n List.mem_cons_self) stack
  | string s => exact ⟨_, reads_string s stack, .delivered⟩
  | array items =>
    cases items with
    | nil => exact ⟨_, .cons rfl (.single rfl), .delivered⟩
    | cons w ws =>
      have hitems : ∀ n ∈ w.numbers ++ itemsNumbers ws, n.ReadsBack := hv
      obtain ⟨hw, hws⟩ := List.forall_mem_append.1 hitems
      obtain ⟨s, hreads, hbehind⟩ := reads_value w hw (.array [] :: stack)
      refine ⟨_, .cons (t := ⟨.firstItem, .array [] :: stack, none⟩) rfl ?_, .delivered⟩
      rw [printItems, List.append_assoc]
      exact (reads_firstItem hw hreads).append (reads_moreItems ws hws hbehind)
  | object members =>
    cases members with
    | nil => exact ⟨_, .cons rfl (.single rfl), .delivered⟩
    | cons m ms =>
      obtain ⟨k, w⟩ := m
      have hmembers : ∀ n ∈ w.numbers ++ membersNumbers ms, n.ReadsBack := hv
      obtain ⟨hw, hms⟩ := List.forall_mem_append.1 hmembers
      obtain ⟨s, hreads, hbehind⟩ := reads_value w hw (.object [] (some k) :: stack)
      refine ⟨_, .cons (t := ⟨.firstKey, .object [] none :: stack, none⟩) rfl ?_, .delivered⟩
      rw [printMembers, List.append_assoc, List.cons_append, List.append_assoc]
      exact (reads_key (.inr rfl) k [] none stack).append
        (.cons rfl (hreads.append (reads_moreMembers ms hms hbehind)))

/-- Behind an item come the other items and the closing bracket. -/
theorem reads_moreItems (vs : List Json) (hvs : ∀ n ∈ itemsNumbers vs, n.ReadsBack)
    {last : Syntax} {items : List Syntax} {stack : List Frame} {s : State}
    (hs : Behind last (.array items :: stack) s) :
    Reads (printMoreItems vs ++ [']']) s
      (deliver (.array ((last :: items).reverse ++ itemsToSyntax vs)) stack) := by
  cases vs with
  | nil =>
    refine .single ?_
    rw [hs.step_eq rfl, itemsToSyntax, List.append_nil]
    rfl
  | cons v vs =>
    have hall : ∀ n ∈ v.numbers ++ itemsNumbers vs, n.ReadsBack := hvs
    obtain ⟨hv, hvs⟩ := List.forall_mem_append.1 hall
    obtain ⟨s', hreads, hbehind⟩ := reads_value v hv (.array (last :: items) :: stack)
    have hrest := reads_moreItems vs hvs hbehind
    rw [List.reverse_cons, List.append_assoc] at hrest
    rw [printMoreItems, List.cons_append, List.append_assoc]
    exact .cons (hs.step_eq rfl) (hreads.append hrest)

/-- Behind a member come the other members and the closing brace. -/
theorem reads_moreMembers (ms : List (String × Json)) (hms : ∀ n ∈ membersNumbers ms, n.ReadsBack)
    {last : Syntax} {members : List (Option String × Syntax)} {key : Option String}
    {stack : List Frame} {s : State} (hs : Behind last (.object members key :: stack) s) :
    Reads (printMoreMembers ms ++ ['\x7d']) s
      (deliver (.object (((key, last) :: members).reverse ++ membersToSyntax ms)) stack) := by
  cases ms with
  | nil =>
    refine .single ?_
    rw [hs.step_eq rfl, membersToSyntax, List.append_nil]
    rfl
  | cons m ms =>
    obtain ⟨k, v⟩ := m
    have hall : ∀ n ∈ v.numbers ++ membersNumbers ms, n.ReadsBack := hms
    obtain ⟨hv, hms⟩ := List.forall_mem_append.1 hall
    obtain ⟨s', hreads, hbehind⟩ :=
      reads_value v hv (.object ((key, last) :: members) (some k) :: stack)
    have hrest := reads_moreMembers ms hms hbehind
    rw [List.reverse_cons, List.append_assoc] at hrest
    rw [printMoreMembers, List.cons_append, List.append_assoc, List.cons_append,
      List.append_assoc]
    exact .cons (hs.step_eq rfl) ((reads_key (.inl rfl) k _ key stack).append
      (.cons rfl (hreads.append hrest)))

end

end Reader

/-! ## Documents -/

/-- **What was printed is read as what it was printed from.** -/
theorem Syntax.ofText?_print {v : Json} (hv : ∀ n ∈ v.numbers, n.ReadsBack) :
    Syntax.ofText? v.print = some v.toSyntax := by
  obtain ⟨s, hreads, hbehind⟩ := Reader.reads_value v hv []
  have hfold : v.printChars.foldlM Reader.step Reader.start = some s := hreads
  rw [Syntax.ofText?, Syntax.ofChars?, print, String.toList_ofList, hfold, Option.bind_some,
    hbehind.finish_eq]

/-! ## Members in order -/

mutual

/-- A value with the members of all objects inside it in key order. -/
def ordered : Json → Json
  | .array items => .array (orderedItems items)
  | .object members => .object (orderedMembers members)
  | v => v

/-- The items of an array, each of them ordered. -/
def orderedItems : List Json → List Json
  | [] => []
  | v :: vs => v.ordered :: orderedItems vs

/-- The members of an object in key order, each of them ordered. -/
def orderedMembers : List (String × Json) → List (String × Json)
  | [] => []
  | (k, v) :: ms => addMember k v.ordered (orderedMembers ms)

end

theorem orderedItems_eq_map (vs : List Json) : orderedItems vs = vs.map ordered := by
  induction vs with
  | nil => rfl
  | cons v vs ih => rw [orderedItems, ih, List.map_cons]

mutual

/-- **The document of a value is that of the value in order**, if there is room for it. -/
theorem Syntax.toValue?_toSyntax (v : Json) {room : Nat} (h : v.depth ≤ room) :
    v.toSyntax.toValue? room = some v.ordered := by
  cases v with
  | array items =>
    rw [depth] at h
    cases room with
    | zero => omega
    | succ room =>
      rw [toSyntax, Syntax.toValue?, Syntax.toItems?_itemsToSyntax items (by omega)]
      rfl
  | object members =>
    rw [depth] at h
    cases room with
    | zero => omega
    | succ room =>
      rw [toSyntax, Syntax.toValue?, Syntax.toMembers?_membersToSyntax members (by omega)]
      rfl
  | _ => rfl

theorem Syntax.toItems?_itemsToSyntax (vs : List Json) {room : Nat} (h : itemsDepth vs ≤ room) :
    Syntax.toItems? room (itemsToSyntax vs) = some (orderedItems vs) := by
  cases vs with
  | nil => rfl
  | cons v vs =>
    rw [itemsDepth] at h
    rw [itemsToSyntax, Syntax.toItems?, Syntax.toValue?_toSyntax v (by omega),
      Syntax.toItems?_itemsToSyntax vs (by omega)]
    rfl

theorem Syntax.toMembers?_membersToSyntax (ms : List (String × Json)) {room : Nat}
    (h : membersDepth ms ≤ room) :
    Syntax.toMembers? room (membersToSyntax ms) = some (orderedMembers ms) := by
  cases ms with
  | nil => rfl
  | cons m ms =>
    obtain ⟨k, v⟩ := m
    rw [membersDepth] at h
    have hv : v.toSyntax.toValue? room = some v.ordered := Syntax.toValue?_toSyntax v (by omega)
    have hms : Syntax.toMembers? room (membersToSyntax ms) = some (orderedMembers ms) :=
      Syntax.toMembers?_membersToSyntax ms (by omega)
    simp only [membersToSyntax, Syntax.toMembers?, hv, hms, orderedMembers]

end

/-- A member whose key comes before all others is put in front. -/
theorem addMember_of_forall_lt {k : String} {ms : List (String × Json)} (v : Json)
    (h : ∀ m ∈ ms, k < m.1) : addMember k v ms = (k, v) :: ms := by
  have hnew : Dictionary.valueOf? k ms = none := by
    refine Option.eq_none_iff_forall_ne_some.2 fun w hw => ?_
    exact String.lt_irrefl k (h _ (Dictionary.mem_of_valueOf?_eq_some hw))
  rw [addMember, hnew, Option.isSome_none, if_neg Bool.false_ne_true]
  cases ms with
  | nil => rfl
  | cons m ms => rw [Dictionary.insertEntry, if_pos (h m List.mem_cons_self)]

theorem orderedMembers_eq_self {ms : List (String × Json)}
    (ascending : ms.Pairwise (fun a b => a.1 < b.1)) (h : ∀ m ∈ ms, m.2.ordered = m.2) :
    orderedMembers ms = ms := by
  induction ms with
  | nil => rfl
  | cons m ms ih =>
    obtain ⟨hfront, hrest⟩ := List.pairwise_cons.1 ascending
    obtain ⟨hm, hms⟩ := List.forall_mem_cons.1 h
    rw [orderedMembers, hm, ih hrest hms, addMember_of_forall_lt _ hfront]

/-- A value whose members are in order is left as it is. -/
theorem Canonical.ordered_eq {v : Json} (h : v.Canonical) : v.ordered = v := by
  induction h with
  | array _ ih => rw [ordered, orderedItems_eq_map, List.map_congr_left ih, List.map_id']
  | object ascending _ ih => rw [ordered, orderedMembers_eq_self ascending ih]
  | _ => rfl

/-- A value comes back from its text as it is: it does not nest too deep, its members are in order,
and its numbers read back. -/
structure ReadsBack (v : Json) : Prop where
  /-- Containers are not open inside each other more often than is read. -/
  depth : v.depth < 128
  /-- The members of all objects inside it are in order. -/
  canonical : v.Canonical
  /-- Its numbers are read from their texts. -/
  numbers : ∀ x, .real x ∈ v.numbers → (JsonNumber.real x).ReadsBack

/-- **A value whose members are in order comes back from its text.** -/
theorem ReadsBack.ofText?_print {v : Json} (h : v.ReadsBack) : ofText? v.print = some v := by
  have hdepth : v.depth ≤ depthLimit := Nat.le_of_lt_succ h.depth
  rw [ofText?, Syntax.ofText?_print (JsonNumber.readsBack_of_real h.numbers), Option.bind_some,
    Syntax.toValue?_toSyntax v hdepth, h.canonical.ordered_eq]

end Json
end Mailshot
