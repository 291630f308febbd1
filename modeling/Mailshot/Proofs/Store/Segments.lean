import Mathlib.Data.List.Sort
import Mathlib.Data.String.Basic
import Mailshot.Proofs.Audience.Written
import Mailshot.Proofs.Store.Reached

/-!
# Segments come back as they were made

A history of a store is a list of statements.  `segmentsMade` are the segments that were made in it,
as they were passed to the store, and `linksMade` the links, those that were made again included.
Statements that are refused make neither.

What is read for a campaign is a function of these: the rule groups of the segments that it goes to
and that its tenant owns, one for each segment, from the oldest to the newest
(`Segment.Before`).  A group is read as it was passed, and it does not matter in which order the
links were made or how often.
-/

set_option autoImplicit false

namespace Mailshot
namespace Store

/-! ## What was made -/

/-- A segment as it is made. -/
structure Segment where
  /-- The identifier. -/
  id : String
  /-- When it was made. -/
  createdAt : String
  /-- The tenant that it belongs to. -/
  tenant : String
  /-- The name. -/
  name : String
  /-- The rule group. -/
  rules : RuleGroup

namespace Segment

/-- The row of a segment. -/
def row (g : Segment) : SegmentRow := ⟨g.tenant, g.name, g.rules.text, g.createdAt⟩

/-- A segment was made before another, or at one time with it and comes first in the order of
identifiers. -/
def Before (g g' : Segment) : Prop :=
  g.createdAt < g'.createdAt ∨ g.createdAt = g'.createdAt ∧ g.id < g'.id

instance : Std.Irrefl Before where
  irrefl g h := by
    rcases h with h | ⟨-, h⟩
    · exact String.lt_irrefl _ h
    · exact String.lt_irrefl _ h

instance : Std.Antisymm Before where
  antisymm g g' h h' := by
    rcases h with h | ⟨heq, h⟩ <;> rcases h' with h' | ⟨heq', h'⟩
    · exact absurd h' (String.lt_asymm h)
    · exact absurd (heq' ▸ h) (String.lt_irrefl _)
    · exact absurd (heq ▸ h') (String.lt_irrefl _)
    · exact absurd h' (String.lt_asymm h)

end Segment

/-- The segment that a statement makes, if it is carried out. -/
def Statement.segment? (s : Store) : Statement → Option Segment
  | createSegment id createdAt tenant name rules =>
    if (s.createSegment id createdAt tenant name rules).isOk then
      some ⟨id, createdAt, tenant, name, rules⟩
    else none
  | _ => none

/-- The link from a campaign to a segment that a statement makes, if it is carried out. -/
def Statement.link? (s : Store) : Statement → Option (String × String)
  | link campaign segment =>
    if (s.link campaign segment).isOk then some (campaign, segment) else none
  | _ => none

/-- What statements make, each of them in the store that those before it leave. -/
def made {α : Type} (f : Store → Statement → Option α) (s : Store) : List Statement → List α
  | [] => []
  | st :: sts => (f s st).toList ++ made f (st.apply s) sts

/-- The segments that some statements make, in a store that is empty at first. -/
def segmentsMade (sts : List Statement) : List Segment := made Statement.segment? empty sts

/-- The links that some statements make, in a store that is empty at first. -/
def linksMade (sts : List Statement) : List (String × String) := made Statement.link? empty sts

/-- The tenant that owns a campaign. -/
def ownerOf? (s : Store) (campaign : String) : Option String :=
  (s.campaigns.find? campaign).map (·.tenant)

/-! ## What is stored was made -/

section Made

variable {s : Store} {st : Statement}

theorem exists_of_isOk {ε α : Type} {x : Except ε α} (h : x.isOk = true) : ∃ a, x = .ok a := by
  cases x with
  | error => cases h
  | ok a => exact ⟨a, rfl⟩

/-- What can be said of a store because of what was made is said after some statements just if it
was said before them, or because of what they make. -/
theorem after_iff_of_made {α : Type} {f : Store → Statement → Option α} {P : Store → Prop}
    {Q : α → Prop} (hstep : ∀ s st, P (st.apply s) ↔ P s ∨ ∃ x, f s st = some x ∧ Q x) (s : Store)
    (sts : List Statement) : P (s.after sts) ↔ P s ∨ ∃ x ∈ made f s sts, Q x := by
  induction sts generalizing s with
  | nil => simp [made]
  | cons st sts ih =>
    rw [after_cons, ih, hstep, or_assoc]
    simp [made, or_and_right, exists_or]

/-- A segment is only made under an identifier that is free, and then it is there. -/
theorem of_segment? {g : Segment} (h : st.segment? s = some g) :
    s.segments.find? g.id = none ∧ (st.apply s).segments = s.segments.insert g.id g.row := by
  cases st with
  | createSegment id createdAt tenant name rules =>
    rw [Statement.segment?] at h
    split at h
    case isFalse => cases h
    case isTrue hok =>
    obtain ⟨s', hs'⟩ := exists_of_isOk hok
    obtain ⟨hfree, hsegments⟩ := eq_of_createSegment hs'
    obtain rfl := Option.some.inj h
    refine ⟨hfree, ?_⟩
    rw [Statement.apply, hs', orSame, hsegments]
    rfl
  | _ => cases h

/-- Otherwise the segments stay as they are. -/
theorem segments_apply_of_segment? (h : st.segment? s = none) :
    (st.apply s).segments = s.segments := by
  have hdoes := st.does_apply s
  cases st with
  | createSegment id createdAt tenant name rules =>
    rw [Statement.segment?] at h
    split at h
    case isTrue => cases h
    case isFalse hok =>
    rw [Statement.apply]
    cases hs' : s.createSegment id createdAt tenant name rules with
    | error => rfl
    | ok s' => rw [hs'] at hok; exact absurd rfl hok
  | _ =>
    generalize Statement.apply s _ = s' at hdoes ⊢
    cases hdoes <;> rfl

theorem find?_segments_apply_iff {id : String} {row : SegmentRow} :
    (st.apply s).segments.find? id = some row ↔
      s.segments.find? id = some row ∨ ∃ g, st.segment? s = some g ∧ g.id = id ∧ g.row = row := by
  cases hmade : st.segment? s with
  | none => simp [segments_apply_of_segment? hmade]
  | some g =>
    obtain ⟨hfree, hsegments⟩ := of_segment? hmade
    rw [hsegments, Table.find?_insert]
    by_cases hid : g.id = id
    · rw [← hid, hfree]
      simp
    · simp [hid]

/-- **Under an identifier there is the row of the segment that was made with it.** -/
theorem find?_segments_iff {sts : List Statement} {id : String} {row : SegmentRow} :
    (empty.after sts).segments.find? id = some row ↔
      ∃ g ∈ segmentsMade sts, g.id = id ∧ g.row = row := by
  rw [after_iff_of_made (P := fun s => s.segments.find? id = some row)
    fun _ _ => find?_segments_apply_iff]
  simp [segmentsMade, empty]

theorem mem_links_apply_iff {l : String × String} :
    l ∈ (st.apply s).links ↔ l ∈ s.links ∨ ∃ l', st.link? s = some l' ∧ l' = l := by
  have hdoes := st.does_apply s
  cases st with
  | link campaign segment =>
    rw [Statement.link?, Statement.apply, Store.link]
    by_cases hthere : (campaign, segment) ∈ s.links
    · simp only [if_pos hthere, orSame, Except.isOk, Except.toBool, if_true, Option.some.injEq]
      refine ⟨.inl, ?_⟩
      rintro (hold | ⟨_, rfl, rfl⟩)
      · exact hold
      · exact hthere
    · rw [if_neg hthere]
      split
      · simp [orSame, Except.isOk, Except.toBool, eq_comm]
      · simp [orSame, Except.isOk, Except.toBool]
  | _ =>
    generalize Statement.apply s _ = s' at hdoes ⊢
    cases hdoes <;> simp [Statement.link?]

/-- **The links that there are were made.** -/
theorem mem_links_iff {sts : List Statement} {l : String × String} :
    l ∈ (empty.after sts).links ↔ l ∈ linksMade sts := by
  rw [after_iff_of_made (P := fun s => l ∈ s.links) fun _ _ => mem_links_apply_iff]
  simp [linksMade, empty]

/-- The identifier of a segment is free before it is made. -/
theorem find?_eq_none_of_mem_made {sts : List Statement} {g : Segment}
    (h : g ∈ made Statement.segment? s sts) : s.segments.find? g.id = none := by
  induction sts generalizing s with
  | nil => cases h
  | cons st sts ih =>
    rcases List.mem_append.1 h with hnow | hlater
    · exact (of_segment? (Option.mem_toList.1 hnow)).1
    · cases hfind : s.segments.find? g.id with
      | none => rfl
      | some row =>
        have hkept := ih hlater
        rw [st.find?_segments_apply hfind] at hkept
        cases hkept

/-- Segments are told apart by their identifiers. -/
theorem eq_of_id_eq {sts : List Statement} {g g' : Segment}
    (h : g ∈ made Statement.segment? s sts) (h' : g' ∈ made Statement.segment? s sts)
    (hid : g.id = g'.id) : g = g' := by
  induction sts generalizing s with
  | nil => cases h
  | cons st sts ih =>
    -- the identifier of one that was made is not free for any later one
    have hfirst {g g' : Segment} (hnow : g ∈ (st.segment? s).toList)
        (hlater : g' ∈ made Statement.segment? (st.apply s) sts) (hid : g.id = g'.id) : False := by
      have hfree := find?_eq_none_of_mem_made hlater
      rw [(of_segment? (Option.mem_toList.1 hnow)).2, ← hid, Table.find?_insert,
        if_pos rfl] at hfree
      cases hfree
    rcases List.mem_append.1 h with hnow | hlater <;>
      rcases List.mem_append.1 h' with hnow' | hlater'
    · exact Option.some.inj ((Option.mem_toList.1 hnow).symm.trans (Option.mem_toList.1 hnow'))
    · exact (hfirst hnow hlater' hid).elim
    · exact (hfirst hnow' hlater hid.symm).elim
    · exact ih hlater hlater'

end Made

/-! ## What is read -/

section Read

variable {s : Store} {campaign : String}

theorem olderFirst_iff {a b : String × SegmentRow} : olderFirst a b = true ↔
    a.2.createdAt < b.2.createdAt ∨ a.2.createdAt = b.2.createdAt ∧ a.1 ≤ b.1 := by
  simp [olderFirst]

theorem olderFirst_trans (a b c : String × SegmentRow) (hab : olderFirst a b = true)
    (hbc : olderFirst b c = true) : olderFirst a c = true := by
  rw [olderFirst_iff] at hab hbc ⊢
  rcases hab with hab | ⟨hab, hab'⟩ <;> rcases hbc with hbc | ⟨hbc, hbc'⟩
  · exact .inl (lt_trans hab hbc)
  · exact .inl (hbc ▸ hab)
  · exact .inl (hab ▸ hbc)
  · exact .inr ⟨hab.trans hbc, le_trans hab' hbc'⟩

theorem olderFirst_total (a b : String × SegmentRow) :
    (olderFirst a b || olderFirst b a) = true := by
  rw [Bool.or_eq_true, olderFirst_iff, olderFirst_iff]
  rcases lt_trichotomy a.2.createdAt b.2.createdAt with hlt | heq | hgt
  · exact .inl (.inl hlt)
  · exact (le_total a.1 b.1).imp (fun h => .inr ⟨heq, h⟩) fun h => .inr ⟨heq.symm, h⟩
  · exact .inr (.inl hgt)

theorem mem_linkedSegments_iff {e : String × SegmentRow} : e ∈ s.linkedSegments campaign ↔
    s.segments.find? e.1 = some e.2 ∧ (campaign, e.1) ∈ s.links ∧
      s.ownerOf? campaign = some e.2.tenant := by
  have hnamed : e ∈ s.segments.named.entries ↔ s.segments.find? e.1 = some e.2 :=
    (s.segments.named.find?_eq_some_iff e.1 e.2).symm
  rw [linkedSegments, ownerOf?]
  cases s.campaigns.find? campaign with
  | none => simp
  | some c =>
    rw [List.mem_mergeSort, List.mem_filter, hnamed, Bool.and_eq_true, decide_eq_true_iff,
      decide_eq_true_iff, Option.map_some, Option.some.injEq, eq_comm (a := e.2.tenant)]

/-- The segments that a campaign goes to come from the oldest to the newest. -/
theorem pairwise_linkedSegments (s : Store) (campaign : String) :
    (s.linkedSegments campaign).Pairwise fun a b =>
      a.2.createdAt < b.2.createdAt ∨ a.2.createdAt = b.2.createdAt ∧ a.1 < b.1 := by
  rw [linkedSegments]
  cases s.campaigns.find? campaign with
  | none => exact .nil
  | some c =>
    have hdistinct : ((s.segments.named.entries.filter fun e =>
        decide ((campaign, e.1) ∈ s.links) && decide (e.2.tenant = c.tenant)).mergeSort
          olderFirst).Pairwise fun a b => a.1 ≠ b.1 :=
      ((List.mergeSort_perm _ _).pairwise_iff fun h => h.symm).2
        ((s.segments.named.ascending.filter _).imp fun h => ne_of_lt h)
    refine ((List.pairwise_mergeSort olderFirst_trans olderFirst_total _).and hdistinct).imp ?_
    rintro a b ⟨hle, hne⟩
    exact (olderFirst_iff.1 hle).imp id fun h => ⟨h.1, lt_of_le_of_ne h.2 hne⟩

/-- A list whose items all come from some others is a list of these. -/
theorem exists_map_eq {α β : Type} {f : α → β} {P : α → Prop} {l : List β}
    (h : ∀ b ∈ l, ∃ a, P a ∧ f a = b) : ∃ l' : List α, (∀ a ∈ l', P a) ∧ l'.map f = l := by
  induction l with
  | nil => exact ⟨[], fun _ ha => absurd ha List.not_mem_nil, rfl⟩
  | cons b l ih =>
    obtain ⟨⟨a, ha, hb⟩, hl⟩ := List.forall_mem_cons.1 h
    obtain ⟨l', hl', hmap⟩ := ih hl
    exact ⟨a :: l', List.forall_mem_cons.2 ⟨ha, hl'⟩, by rw [List.map_cons, hb, hmap]⟩

/-- The segments that are read for a campaign are those that were made, that it was linked to and
that its tenant owns. -/
theorem exists_segments (sts : List Statement) (campaign : String) :
    ∃ segments : List Segment, segments.Pairwise Segment.Before ∧
      (∀ g, g ∈ segments ↔ g ∈ segmentsMade sts ∧ (campaign, g.id) ∈ linksMade sts ∧
        (empty.after sts).ownerOf? campaign = some g.tenant) ∧
      segments.map (fun g => (g.id, g.row)) = (empty.after sts).linkedSegments campaign := by
  have hfrom : ∀ e ∈ (empty.after sts).linkedSegments campaign,
      ∃ g, g ∈ segmentsMade sts ∧ (g.id, g.row) = e := by
    intro e he
    obtain ⟨g, hg, hid, hrow⟩ := find?_segments_iff.1 (mem_linkedSegments_iff.1 he).1
    exact ⟨g, hg, Prod.ext hid hrow⟩
  obtain ⟨segments, hmade, hmap⟩ := exists_map_eq hfrom
  refine ⟨segments, ?_, fun g => ⟨fun hg => ?_, ?_⟩, hmap⟩
  · have hsorted := pairwise_linkedSegments (empty.after sts) campaign
    rw [← hmap, List.pairwise_map] at hsorted
    exact hsorted
  · have hread : (g.id, g.row) ∈ (empty.after sts).linkedSegments campaign :=
      hmap ▸ List.mem_map_of_mem hg
    obtain ⟨-, hlink, howner⟩ := mem_linkedSegments_iff.1 hread
    exact ⟨hmade g hg, mem_links_iff.1 hlink, howner⟩
  · rintro ⟨hg, hlink, howner⟩
    have hread : (g.id, g.row) ∈ (empty.after sts).linkedSegments campaign :=
      mem_linkedSegments_iff.2
        ⟨find?_segments_iff.2 ⟨g, hg, rfl, rfl⟩, mem_links_iff.2 hlink, howner⟩
    rw [← hmap] at hread
    obtain ⟨g', hg', heq⟩ := List.mem_map.1 hread
    rwa [eq_of_id_eq (hmade g' hg') hg (congrArg Prod.fst heq)] at hg'

/-- **Segments come back as they were made, and links make up a set.**  Whatever statements are
carried out, those that make segments and links among them, what is read for a campaign are the rule
groups of the segments that it was linked to and that its tenant owns, each of them once and as it
was passed, in the order of their times and then of their identifiers.  Other statements that make
the same segments and the same set of links lead to the same groups. -/
theorem linkedRuleGroups_made {sts : List Statement}
    (hback : ∀ g ∈ segmentsMade sts, g.rules.ReadsBack) (campaign : String) :
    (∃ segments : List Segment, segments.Pairwise Segment.Before ∧
      (∀ g, g ∈ segments ↔ g ∈ segmentsMade sts ∧ (campaign, g.id) ∈ linksMade sts ∧
        (empty.after sts).ownerOf? campaign = some g.tenant) ∧
      (empty.after sts).linkedRuleGroups campaign = segments.map (·.rules)) ∧
    ∀ sts', (∀ g, g ∈ segmentsMade sts' ↔ g ∈ segmentsMade sts) →
      (empty.after sts').ownerOf? campaign = (empty.after sts).ownerOf? campaign →
      (∀ l, l ∈ linksMade sts' ↔ l ∈ linksMade sts) →
      (empty.after sts').linkedRuleGroups campaign =
        (empty.after sts).linkedRuleGroups campaign := by
  constructor
  · obtain ⟨segments, hsorted, hmem, hmap⟩ := exists_segments sts campaign
    refine ⟨segments, hsorted, hmem, ?_⟩
    rw [linkedRuleGroups, ← hmap, List.map_map]
    refine List.map_congr_left fun g hg => ?_
    simp only [Function.comp_apply, Segment.row]
    exact (hback g ((hmem g).1 hg).1).ofTextOrEmpty_text
  · intro sts' hmade howner hlinks
    obtain ⟨segments, hsorted, hmem, hmap⟩ := exists_segments sts campaign
    obtain ⟨segments', hsorted', hmem', hmap'⟩ := exists_segments sts' campaign
    have hsame : segments' = segments := hsorted'.eq_of_mem_iff hsorted fun g => by
      rw [hmem, hmem', hmade, hlinks, howner]
    rw [linkedRuleGroups, linkedRuleGroups, ← hmap, ← hmap', hsame]

end Read

namespace Sample

/-- A group with one condition. -/
def wanted (operator : Operator) : RuleGroup :=
  ⟨.any, [⟨" State", operator, .array [.string "CA"]⟩]⟩

/-- Two segments are made at one time, and the campaign is linked to the first one twice. -/
def linkedTwice : List Statement :=
  [.upsertTenant ⟨"t", ""⟩, .createCampaign "c" "" ⟨"t", "", "", "", none, none⟩,
    .createSegment "h" "" "t" "" (wanted .inSet), .createSegment "g" "" "t" "" (wanted .unknown),
    .link "c" "h", .link "c" "g", .link "c" "h"]

end Sample

/-- They are read in the order of their identifiers, each once. -/
theorem linkedRuleGroups_of_linkedTwice :
    (empty.after Sample.linkedTwice).linkedRuleGroups "c" =
      [Sample.wanted .unknown, Sample.wanted .inSet] := by
  have hmade : segmentsMade Sample.linkedTwice =
      [⟨"h", "", "t", "", Sample.wanted .inSet⟩, ⟨"g", "", "t", "", Sample.wanted .unknown⟩] := rfl
  have hlinks : linksMade Sample.linkedTwice = [("c", "h"), ("c", "g"), ("c", "h")] := rfl
  have howner : (empty.after Sample.linkedTwice).ownerOf? "c" = some "t" := rfl
  have hback (operator : Operator) : (Sample.wanted operator).ReadsBack := by
    refine ⟨?_, fun c hc => ?_, fun x hx => ?_⟩
    · show 4 < 128
      decide
    · rw [List.mem_singleton.1 hc]
      exact .array fun v hv => by rw [List.mem_singleton.1 hv]; exact .string _
    · cases operator <;> cases hx
  have hall : ∀ g ∈ segmentsMade Sample.linkedTwice, g.rules.ReadsBack := by
    rw [hmade]
    simp [hback]
  obtain ⟨⟨segments, hsorted, hmem, hread⟩, -⟩ := linkedRuleGroups_made hall "c"
  have hsegments : segments = [⟨"g", "", "t", "", Sample.wanted .unknown⟩,
      ⟨"h", "", "t", "", Sample.wanted .inSet⟩] := by
    refine hsorted.eq_of_mem_iff ?_ fun g => ?_
    · exact List.pairwise_pair.2 (.inr ⟨rfl, by decide⟩)
    · rw [hmem, hmade, hlinks, howner]
      simp only [List.mem_cons, List.not_mem_nil, or_false]
      constructor
      · exact fun h => h.1.symm
      · rintro (rfl | rfl) <;> simp
  rw [hread, hsegments]
  rfl

end Store
end Mailshot
