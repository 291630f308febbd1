import Mailshot.Proofs.Campaign.Template
import Mailshot.Text.Search

/-!
# Tokens that stay in the text

Those who read a mailing should not see a token such as `{{firstName}}`.  A token is missed if
something is open where it stands (`LeavesOpen`): the opening of an earlier token that was never
ended, or a single brace, which makes a mark together with the first brace of the token.  The reader
then takes all of it for one token with a long name, and copies it.

So of every place in a template at which a token stands it is known whether the token is replaced
(`personalize_append_closed`, `personalize_append_open`).  There is no other way for a token to come
into a text than to have been in the template (`Cuts.exists_open`), unless a value that is put in
has braces: a mark cannot lie across the end of a plain part, or of a value, and within a copied
token there is one closing mark only.
-/

set_option autoImplicit false

namespace Mailshot
namespace Template

/-- How a token is written. -/
def tokenText (name : String) : String := "\x7b\x7b" ++ name ++ "\x7d\x7d"

theorem toList_tokenText (name : String) :
    (tokenText name).toList = source (.token name.toList) := by
  simp [tokenText, source, openingMark, closingMark]

/-- Something is open at the end of a text: a token that has not ended, or a brace that may be half
of a mark. -/
def LeavesOpen (cs : List Char) : Prop :=
  (∃ rest, .unclosed rest ∈ cut cs) ∨ cs.getLast? = some '\x7b'

theorem cuts_cut (cs : List Char) : Cuts cs (cut cs) := cuts_iff.2 rfl

theorem not_mem_of_mem_tokenNames {name : String} (h : name ∈ tokenNames) :
    '\x7b' ∉ name.toList ∧ '\x7d' ∉ name.toList := by
  revert name
  decide

/-- A token with a brace in its name is copied. -/
theorem merged_of_brace (contact : Contact) (tenant : Tenant) {token : List Char}
    (h : '\x7b' ∈ token) :
    merged (values contact tenant) (.token token) = source (.token token) := by
  refine merged_of_notMem contact tenant fun name heq hname => ?_
  obtain rfl := Segment.token.inj heq
  exact (not_mem_of_mem_tokenNames hname).1 (by rwa [String.toList_ofList])

/-! ## Marks -/

/-- A mark is two of the same character, so it does not end in a text without this character. -/
theorem firstBehind_of_notMem {c : Char} {before : List Char} (h : c ∉ before) :
    FirstBehind [c, c] before := by
  intro hstands
  have hcount := hstands.sublist.count_le c
  simp [List.count_eq_zero.2 h] at hcount

/-- An opening mark does not get in the way of a closing one. -/
theorem closingMark_infix_openingMark_append {cs : List Char} :
    closingMark <:+: openingMark ++ cs ↔ closingMark <:+: cs := by
  simp [openingMark, closingMark, List.infix_cons_iff, List.cons_prefix_cons]

theorem FirstBehind.openingMark_append {name : List Char} (h : FirstBehind closingMark name) :
    FirstBehind closingMark (openingMark ++ name) := by
  rw [FirstBehind, List.append_assoc, closingMark_infix_openingMark_append]
  exact h

/-- There is one first place of a closing mark. -/
theorem FirstBehind.eq_of_append_eq {before before' rest rest' : List Char}
    (h : FirstBehind closingMark before) (h' : FirstBehind closingMark before')
    (heq : before ++ (closingMark ++ rest) = before' ++ (closingMark ++ rest')) :
    before = before' := by
  have hread := cutFrom_of_firstBehind true h [] rest
  have hread' := cutFrom_of_firstBehind true h' [] rest'
  have hsegments := hread.symm.trans ((congrArg (cutFrom true []) heq).trans hread')
  exact Segment.token.inj (List.cons.inj hsegments).1

/-- A mark lies on one side of any other character. -/
theorem infix_or_infix_of_ne {c d : Char} (hne : d ≠ c) {xs ys : List Char}
    (h : [c, c] <:+: xs ++ d :: ys) : [c, c] <:+: xs ∨ [c, c] <:+: ys := by
  induction xs with
  | nil =>
    refine .inr ((List.infix_cons_iff.1 h).resolve_left fun hbegins => ?_)
    exact hne (List.cons_prefix_cons.1 hbegins).1.symm
  | cons x xs ih =>
    rcases List.infix_cons_iff.1 h with hbegins | hstands
    · -- it begins with this character, so the next one is the same and not yet the other
      obtain ⟨rfl, hnext⟩ := List.cons_prefix_cons.1 hbegins
      cases xs with
      | nil => exact absurd (List.cons_prefix_cons.1 hnext).1.symm hne
      | cons y xs =>
        obtain ⟨rfl, -⟩ := List.cons_prefix_cons.1 hnext
        exact .inl ⟨[], xs, rfl⟩
    · exact (ih hstands).imp List.infix_cons id

/-! ## A token where something is open -/

variable (contact : Contact) (tenant : Tenant)

/-- A token that stands where something is open is copied, and what comes behind it is cut as it is
by itself. -/
theorem Cuts.append_open {a b name : List Char} {segments rest : List Segment} (h : Cuts a segments)
    (hopen : (∃ cs, .unclosed cs ∈ segments) ∨ a.getLast? = some '\x7b') (hname : '\x7d' ∉ name)
    (hb : Cuts b rest) :
    ∃ all, Cuts (a ++ (Template.source (.token name) ++ b)) all ∧
      all.flatMap (merged (values contact tenant)) =
        segments.flatMap (merged (values contact tenant)) ++
          (Template.source (.token name) ++ rest.flatMap (merged (values contact tenant))) := by
  induction h with
  | @plain a hnone =>
    -- the brace at the end and the first one of the token are the mark
    obtain ⟨before, rfl⟩ := List.getLast?_eq_some_iff.1 (hopen.resolve_left (by simp))
    have hclose : FirstBehind closingMark ('\x7b' :: name) :=
      firstBehind_of_notMem (by simp [hname])
    have hcuts := Cuts.token hnone hclose hb
    refine ⟨_, by simpa [Template.source, openingMark] using hcuts, ?_⟩
    rw [List.flatMap_cons, List.flatMap_cons, merged_of_brace contact tenant List.mem_cons_self]
    simp [merged, Template.source, openingMark]
  | @unclosed before opened hfirst hnone =>
    have hclose : FirstBehind closingMark (opened ++ (openingMark ++ name)) := by
      intro hstands
      rw [List.append_assoc] at hstands
      rcases infix_or_infix_of_ne (by decide) hstands with hleft | hright
      · exact hnone hleft
      · exact FirstBehind.openingMark_append (firstBehind_of_notMem hname)
          (List.infix_cons hright)
    have hcuts := Cuts.token hfirst hclose hb
    refine ⟨_, by simpa [Template.source] using hcuts, ?_⟩
    rw [List.flatMap_cons, List.flatMap_cons,
      merged_of_brace contact tenant (by simp [openingMark])]
    simp [merged, Template.source]
  | @token before other behind segments hfirst hclose _ ih =>
    have hbehind : (∃ cs, .unclosed cs ∈ segments) ∨ behind.getLast? = some '\x7b' := by
      refine hopen.imp (Exists.imp fun cs hmem => by simpa using hmem) fun hlast => ?_
      cases behind with
      | nil => simp [closingMark] at hlast
      | cons c cs => simpa [closingMark] using hlast
    obtain ⟨all, hcuts, hall⟩ := ih hbehind
    refine ⟨_, by simpa using Cuts.token hfirst hclose hcuts, ?_⟩
    simp only [List.flatMap_cons, hall, List.append_assoc]

theorem LeavesOpen.append_token {cs before name : List Char} (h : LeavesOpen cs)
    (hopen : FirstBehind openingMark before) (hclose : FirstBehind closingMark name) :
    LeavesOpen (before ++ (openingMark ++ (name ++ (closingMark ++ cs)))) := by
  have hcuts := Cuts.token hopen hclose (cuts_cut cs)
  rcases h with ⟨rest, hmem⟩ | hlast
  · refine .inl ⟨rest, ?_⟩
    rw [← hcuts.eq_cut]
    exact List.mem_cons_of_mem _ (List.mem_cons_of_mem _ hmem)
  · exact .inr (by simp [List.getLast?_append, hlast])

/-- Behind an opening that is still open, and behind the first brace of it, something is open. -/
theorem leavesOpen_of_prefix {before opened name : List Char}
    (hopen : FirstBehind openingMark before) (hclose : FirstBehind closingMark name)
    (hbegin : opened <+: openingMark ++ name) (hne : opened ≠ []) :
    LeavesOpen (before ++ opened) := by
  match opened, hne with
  | [c], _ =>
    obtain ⟨rfl, -⟩ := List.cons_prefix_cons.1 hbegin
    exact .inr (by simp)
  | c :: d :: rest, _ =>
    obtain ⟨rfl, hnext⟩ := List.cons_prefix_cons.1 hbegin
    obtain ⟨rfl, hrest⟩ := List.cons_prefix_cons.1 hnext
    have hnone : ¬ closingMark <:+: rest := fun hstands =>
      hclose (hstands.trans (hrest.isInfix.trans (List.prefix_append ..).isInfix))
    refine .inl ⟨rest, ?_⟩
    rw [← (show Cuts (before ++ '\x7b' :: '\x7b' :: rest) _ from .unclosed hopen hnone).eq_cut]
    simp

/-! ## Where a token comes from -/

/-- Before the first place of an opening mark there is no place for it to begin. -/
theorem FirstBehind.infix_of_append {before rest cs : List Char}
    (h : FirstBehind openingMark before) (hstands : openingMark ++ cs <:+: before ++ rest) :
    openingMark ++ cs <:+: rest := by
  induction before with
  | nil => exact hstands
  | cons c before ih =>
    refine ih h.tail ((List.infix_cons_iff.1 hstands).resolve_left fun hbegins => ?_)
    obtain ⟨rfl, hnext⟩ := List.cons_prefix_cons.1 hbegins
    cases before with
    | nil => exact h ⟨[], [], rfl⟩
    | cons d before =>
      obtain ⟨rfl, -⟩ := List.cons_prefix_cons.1 hnext
      exact h ⟨[], before ++ openingMark.dropLast, rfl⟩

/-- A token that stands in a text which is cut at the first closing mark ends with this mark, or it
stands behind it. -/
theorem FirstBehind.token_cases {cs rest name : List Char} (h : FirstBehind closingMark cs)
    (hname : '\x7d' ∉ name)
    (hstands : Template.source (.token name) <:+: cs ++ (closingMark ++ rest)) :
    (∃ front, cs = front ++ (openingMark ++ name)) ∨ Template.source (.token name) <:+: rest := by
  induction cs with
  | nil =>
    have hbehind := (List.infix_cons_iff.1 hstands).resolve_left fun hbegins => by
      simpa using (List.cons_prefix_cons.1 hbegins).1
    exact .inr ((List.infix_cons_iff.1 hbehind).resolve_left fun hbegins => by
      simpa using (List.cons_prefix_cons.1 hbegins).1)
  | cons c cs ih =>
    rcases List.infix_cons_iff.1 hstands with ⟨behind, hbegins⟩ | htail
    · have htoken : FirstBehind closingMark (openingMark ++ name) :=
        (firstBehind_of_notMem hname).openingMark_append
      have heq : (c :: cs) ++ (closingMark ++ rest) =
          (openingMark ++ name) ++ (closingMark ++ behind) := by
        simpa [Template.source] using hbegins.symm
      exact .inl ⟨[], h.eq_of_append_eq htoken heq⟩
    · refine (ih h.tail htail).imp_left ?_
      rintro ⟨front, rfl⟩
      exact ⟨c :: front, rfl⟩

/-- A token that stands in a copied one with another name was begun where something was open; if it
does not stand in there, it stands behind. -/
theorem exists_open_or_behind {before other rest name text : List Char}
    (hopen : FirstBehind openingMark before) (hclose : FirstBehind closingMark other)
    (hname : '\x7d' ∉ name) (hne : other ≠ name)
    (hstands : source (.token name) <:+: source (.token other) ++ text) :
    (∃ a b, before ++ (openingMark ++ (other ++ (closingMark ++ rest))) =
        a ++ (source (.token name) ++ b) ∧ LeavesOpen a) ∨
      source (.token name) <:+: text := by
  refine (hclose.openingMark_append.token_cases hname
    (by simpa [source] using hstands)).imp_left ?_
  rintro ⟨front, hfront⟩
  refine ⟨before ++ front, rest, ?_, ?_⟩
  · rw [← List.append_assoc openingMark, hfront]
    simp [source]
  · refine leavesOpen_of_prefix hopen hclose ⟨_, hfront.symm⟩ ?_
    rintro rfl
    exact hne (by simpa using hfront)

variable {contact tenant} in
/-- **A token is in a text only if it was in the template, where something was open**, if no value
brings a brace with it. -/
theorem Cuts.exists_open {cs name : List Char} {segments : List Segment} (h : Cuts cs segments)
    (hvalues : ∀ p ∈ values contact tenant, '\x7b' ∉ p.2.toList)
    (hname : String.ofList name ∈ tokenNames)
    (hstands : Template.source (.token name) <:+:
      segments.flatMap (merged (values contact tenant))) :
    ∃ a b, cs = a ++ (Template.source (.token name) ++ b) ∧ LeavesOpen a := by
  have hbrace : '\x7d' ∉ name := by
    simpa using (not_mem_of_mem_tokenNames hname).2
  have hmark : openingMark <:+: Template.source (.token name) :=
    (List.prefix_append ..).isInfix
  induction h with
  | plain hnone =>
    refine absurd (hmark.trans ?_) hnone
    simpa [merged, Template.source] using hstands
  | @unclosed before rest hopen hnone =>
    have hrest : Template.source (.token name) <:+: openingMark ++ rest :=
      hopen.infix_of_append (by simpa [merged, Template.source] using hstands)
    refine absurd (closingMark_infix_openingMark_append.1 (List.IsInfix.trans ?_ hrest)) hnone
    exact ⟨openingMark ++ name, [], by simp [Template.source]⟩
  | @token before other rest segments hopen hclose _ ih =>
    have hbehind (h : Template.source (.token name) <:+:
        segments.flatMap (merged (values contact tenant))) :
        ∃ a b, before ++ (openingMark ++ (other ++ (closingMark ++ rest))) =
          a ++ (Template.source (.token name) ++ b) ∧ LeavesOpen a := by
      obtain ⟨a, b, rfl, ha⟩ := ih h
      exact ⟨_, b, by simp, ha.append_token hopen hclose⟩
    -- it does not begin in front of what the token became
    have hfrom : Template.source (.token name) <:+: merged (values contact tenant) (.token other) ++
        segments.flatMap (merged (values contact tenant)) :=
      hopen.infix_of_append (by simpa [merged, Template.source] using hstands)
    cases hvalue : (values contact tenant).lookup (String.ofList other) with
    | some value =>
      obtain ⟨front, back, heq, -⟩ := List.lookup_eq_some_iff.1 hvalue
      have hnone : '\x7b' ∉ value.toList := hvalues _ (heq ▸ List.mem_append_cons_self)
      rw [merged, hvalue] at hfrom
      exact hbehind ((firstBehind_of_notMem hnone).infix_of_append hfrom)
    | none =>
      have hne : other ≠ name := by
        rintro rfl
        have hnames : String.ofList other ∈ (values contact tenant).map Prod.fst := hname
        obtain ⟨p, hp, hpname⟩ := List.mem_map.1 hnames
        exact absurd (List.lookup_eq_none_iff.1 hvalue p hp) (by simp [hpname])
      rw [merged, hvalue] at hfrom
      exact (exists_open_or_behind hopen hclose hbrace hne hfrom).elim id hbehind

/-! ## The text that is made -/

theorem personalize_append_open {a name : String} (ha : LeavesOpen a.toList)
    (hname : name ∈ tokenNames) (b : String) :
    personalize (a ++ (tokenText name ++ b)) contact tenant =
      personalize a contact tenant ++ (tokenText name ++ personalize b contact tenant) := by
  obtain ⟨all, hcuts, hall⟩ := (cuts_cut a.toList).append_open contact tenant ha
    (not_mem_of_mem_tokenNames hname).2 (cuts_cut b.toList)
  have htemplate : (a ++ (tokenText name ++ b)).toList =
      a.toList ++ (source (.token name.toList) ++ b.toList) := by
    rw [String.toList_append, String.toList_append, toList_tokenText]
  rw [← String.toList_inj, toList_personalize, htemplate, ← hcuts.eq_cut, hall,
    String.toList_append, String.toList_append, toList_tokenText, toList_personalize,
    toList_personalize]

theorem personalize_append_closed {a name value : String} (ha : ¬ LeavesOpen a.toList)
    (hvalue : (name, value) ∈ values contact tenant) (b : String) :
    personalize (a ++ (tokenText name ++ b)) contact tenant =
      personalize a contact tenant ++ (value ++ personalize b contact tenant) := by
  have hname : name ∈ tokenNames := List.mem_map_of_mem (f := Prod.fst) hvalue
  have hclosed : ∀ rest, .unclosed rest ∉ cut a.toList := fun rest hmem => ha (.inl ⟨rest, hmem⟩)
  rw [personalize_append contact tenant hclosed (fun hlast => ha (.inr hlast)), tokenText,
    personalize_append contact tenant (closed_token hname).1 (closed_token hname).2,
    personalize_token contact tenant hvalue]

/-- **Which tokens are replaced, and which are seen.**  A token is replaced wherever it stands in a
template unless something is open there; then it goes into the text as it is.  If no value has an
opening brace, these are the only tokens that can be seen in the text. -/
theorem raw_token_iff (contact : Contact) (tenant : Tenant) :
    (∀ name value a b, (name, value) ∈ values contact tenant →
      (¬ LeavesOpen a.toList → personalize (a ++ (tokenText name ++ b)) contact tenant =
        personalize a contact tenant ++ (value ++ personalize b contact tenant)) ∧
      (LeavesOpen a.toList → personalize (a ++ (tokenText name ++ b)) contact tenant =
        personalize a contact tenant ++ (tokenText name ++ personalize b contact tenant))) ∧
    ((∀ p ∈ values contact tenant, '\x7b' ∉ p.2.toList) → ∀ template, ∀ name ∈ tokenNames,
      (containsText (personalize template contact tenant) (tokenText name) = true ↔
        ∃ a b, template = a ++ (tokenText name ++ b) ∧ LeavesOpen a.toList)) := by
  refine ⟨fun name value a b hvalue => ⟨fun ha => ?_, fun ha => ?_⟩,
    fun hvalues template name hname => ⟨fun hseen => ?_, ?_⟩⟩
  · exact personalize_append_closed contact tenant ha hvalue b
  · exact personalize_append_open contact tenant ha (List.mem_map_of_mem (f := Prod.fst) hvalue) b
  · rw [containsText, occursIn_iff, toList_tokenText, toList_personalize] at hseen
    obtain ⟨a, b, heq, ha⟩ := (cuts_cut template.toList).exists_open hvalues
      (by rwa [String.ofList_toList]) hseen
    refine ⟨String.ofList a, String.ofList b, ?_, by rwa [String.toList_ofList]⟩
    rw [← String.toList_inj, heq]
    simp [toList_tokenText]
  · rintro ⟨a, b, rfl, ha⟩
    rw [personalize_append_open contact tenant ha hname, containsText, occursIn_iff,
      String.toList_append, String.toList_append]
    exact ⟨_, _, List.append_assoc ..⟩

/-- The last two of three braces do not begin a token. -/
theorem token_behind_brace_seen :
    let contact := { Contact.ofIdentity "a" "t" with firstName := some "Alice" }
    let tenant := Tenant.mk "t" "Acme Realty"
    let template := "\x7b" ++ tokenText "firstName"
    (∀ p ∈ values contact tenant, '\x7b' ∉ p.2.toList ∧ '\x7d' ∉ p.2.toList) ∧
      "firstName" ∈ tokenNames ∧
      containsText (personalize template contact tenant) (tokenText "firstName") = true :=
  ⟨by decide, by decide, by decide⟩

end Template
end Mailshot
