import Mathlib.Data.List.Basic
import Mailshot.Campaign.Template

/-!
# Where a template is cut

`Template.cut` reads a template one character after the other.  `Template.Cuts` says the same
without reading: it names the places at which a template falls apart, each of them the first one at
which a mark stands (`FirstBehind`).  There is one way to cut a template and no other (`cuts_iff`),
and putting the segments together again gives the template (`Cuts.source`).

What a template becomes is known from its segments, which have nothing to do with contact and tenant
(`personalize_single_pass`).  So what is put in is never looked at again, and two templates that are
filled in one behind the other are filled in each by itself, if the seam between them is not
inside of a token or of a mark.
-/

set_option autoImplicit false

namespace Mailshot
namespace Template

/-! ## The first place of a mark -/

/-- A mark that comes behind a text stands there for the first time: an earlier place would lie in
the text and all but the last character of the mark. -/
def FirstBehind (mark before : List Char) : Prop := ¬ mark <:+: before ++ mark.dropLast

/-- What stands somewhere in a text stands in some place of it for the first time. -/
theorem exists_firstBehind {mark cs : List Char} (hmark : mark ≠ []) (h : mark <:+: cs) :
    ∃ before rest, cs = before ++ (mark ++ rest) ∧ FirstBehind mark before := by
  induction cs with
  | nil => exact absurd (List.infix_nil.1 h) hmark
  | cons c cs ih =>
    by_cases hhere : mark <+: c :: cs
    · obtain ⟨rest, hrest⟩ := hhere
      refine ⟨[], rest, hrest.symm, fun hearlier => ?_⟩
      have hlength := hearlier.length_le
      have hpos := List.length_pos_iff.2 hmark
      rw [List.nil_append, List.length_dropLast] at hlength
      omega
    · obtain ⟨before, rest, rfl, hfirst⟩ := ih ((List.infix_cons_iff.1 h).resolve_left hhere)
      refine ⟨c :: before, rest, rfl, fun hearlier => ?_⟩
      rcases List.infix_cons_iff.1 hearlier with hbegins | hinfix
      · have hstart : before ++ mark.dropLast <+: before ++ (mark ++ rest) :=
          (List.prefix_append_right_inj before).2
            ((List.dropLast_prefix mark).trans (List.prefix_append mark rest))
        exact hhere (hbegins.trans (List.cons_prefix_cons.2 ⟨rfl, hstart⟩))
      · exact hfirst hinfix

/-- In front of its first place a mark does not stand. -/
theorem FirstBehind.not_prefix {mark before rest : List Char} {c : Char}
    (h : FirstBehind mark (c :: before)) (hmark : mark ≠ []) :
    ¬ mark <+: c :: (before ++ (mark ++ rest)) := by
  intro hbegins
  have hstart : c :: (before ++ mark.dropLast) <+: c :: (before ++ (mark ++ rest)) :=
    List.cons_prefix_cons.2 ⟨rfl, (List.prefix_append_right_inj before).2
      ((List.dropLast_prefix mark).trans (List.prefix_append mark rest))⟩
  refine h (List.prefix_of_prefix_length_le hbegins hstart ?_).isInfix
  have hpos := List.length_pos_iff.2 hmark
  simp only [List.length_cons, List.length_append, List.length_dropLast]
  omega

theorem FirstBehind.tail {mark before : List Char} {c : Char}
    (h : FirstBehind mark (c :: before)) : FirstBehind mark before :=
  fun hinfix => h (List.infix_cons hinfix)

/-! ## The cuts of a template -/

/-- The mark with which a token begins. -/
def openingMark : List Char := ['\x7b', '\x7b']

/-- The mark with which a token ends. -/
def closingMark : List Char := ['\x7d', '\x7d']

theorem openingMark_ne_nil : openingMark ≠ [] := List.cons_ne_nil _ _

theorem closingMark_ne_nil : closingMark ≠ [] := List.cons_ne_nil _ _

/-- A template falls into these segments. -/
inductive Cuts : List Char → List Segment → Prop
  /-- No token begins. -/
  | plain {cs : List Char} (hopen : ¬ openingMark <:+: cs) : Cuts cs [.plain cs]
  /-- A token begins that does not end. -/
  | unclosed {before rest : List Char} (hopen : FirstBehind openingMark before)
      (hclose : ¬ closingMark <:+: rest) :
      Cuts (before ++ (openingMark ++ rest)) [.plain before, .unclosed rest]
  /-- A token begins and ends, and the rest is cut in the same way. -/
  | token {before name rest : List Char} {segments : List Segment}
      (hopen : FirstBehind openingMark before) (hclose : FirstBehind closingMark name)
      (hrest : Cuts rest segments) :
      Cuts (before ++ (openingMark ++ (name ++ (closingMark ++ rest))))
        (.plain before :: .token name :: segments)

/-- Every template can be cut. -/
theorem exists_cuts (cs : List Char) : ∃ segments, Cuts cs segments := by
  by_cases hopen : openingMark <:+: cs
  · obtain ⟨before, behind, hcs, hfirst⟩ := exists_firstBehind openingMark_ne_nil hopen
    by_cases hclose : closingMark <:+: behind
    · obtain ⟨name, rest, hbehind, hfirst'⟩ := exists_firstBehind closingMark_ne_nil hclose
      have hshorter : rest.length < cs.length := by
        rw [hcs, hbehind]
        simp [openingMark, closingMark]
        omega
      obtain ⟨segments, hrest⟩ := exists_cuts rest
      rw [hcs, hbehind]
      exact ⟨_, .token hfirst hfirst' hrest⟩
    · rw [hcs]
      exact ⟨_, .unclosed hfirst hclose⟩
  · exact ⟨_, .plain hopen⟩
termination_by cs.length

/-! ## The reader -/

/-- The mark that the reader looks for. -/
def markOf : Bool → List Char
  | false => openingMark
  | true => closingMark

/-- The segment that ends with this mark. -/
def marked : Bool → List Char → Segment
  | false => .plain
  | true => .token

/-- The segment that ends with the template. -/
def unmarked : Bool → List Char → Segment
  | false => .plain
  | true => .unclosed

theorem markOf_ne_nil (inside : Bool) : markOf inside ≠ [] := by
  cases inside with
  | false => exact openingMark_ne_nil
  | true => exact closingMark_ne_nil

theorem cutFrom_nil (inside : Bool) (read : List Char) :
    cutFrom inside read [] = [unmarked inside read.reverse] := by
  cases inside <;> rfl

theorem cutFrom_mark (inside : Bool) (read rest : List Char) :
    cutFrom inside read (markOf inside ++ rest) =
      marked inside read.reverse :: cutFrom (!inside) [] rest := by
  cases inside <;> rfl

/-- Where the mark does not stand the reader goes on. -/
theorem cutFrom_cons {inside : Bool} {c : Char} {cs : List Char}
    (h : ¬ markOf inside <+: c :: cs) (read : List Char) :
    cutFrom inside read (c :: cs) = cutFrom inside (c :: read) cs := by
  refine cutFrom.eq_5 inside read c cs (fun rest hinside hc hcs => ?_)
    fun rest hinside hc hcs => ?_
  · subst hinside hc hcs
    exact h (List.prefix_append openingMark rest)
  · subst hinside hc hcs
    exact h (List.prefix_append closingMark rest)

/-- The reader finds the first place of the mark. -/
theorem cutFrom_of_firstBehind (inside : Bool) {before : List Char}
    (h : FirstBehind (markOf inside) before) (read rest : List Char) :
    cutFrom inside read (before ++ (markOf inside ++ rest)) =
      marked inside (read.reverse ++ before) :: cutFrom (!inside) [] rest := by
  induction before generalizing read with
  | nil => rw [List.nil_append, cutFrom_mark, List.append_nil]
  | cons c before ih =>
    rw [List.cons_append, cutFrom_cons (h.not_prefix (markOf_ne_nil inside)), ih h.tail,
      List.reverse_cons, List.append_assoc]
    rfl

/-- The reader takes all that is left if the mark stands nowhere. -/
theorem cutFrom_of_unmarked (inside : Bool) {cs : List Char} (h : ¬ markOf inside <:+: cs)
    (read : List Char) : cutFrom inside read cs = [unmarked inside (read.reverse ++ cs)] := by
  induction cs generalizing read with
  | nil => rw [cutFrom_nil, List.append_nil]
  | cons c cs ih =>
    rw [cutFrom_cons (fun hbegins => h hbegins.isInfix),
      ih fun hinfix => h (List.infix_cons hinfix), List.reverse_cons, List.append_assoc]
    rfl

/-- The reader cuts where the template falls apart. -/
theorem Cuts.eq_cut {cs : List Char} {segments : List Segment} (h : Cuts cs segments) :
    segments = cut cs := by
  induction h with
  | plain hopen => exact (cutFrom_of_unmarked false hopen []).symm
  | @unclosed before rest hopen hclose =>
    have hbefore := cutFrom_of_firstBehind false hopen [] rest
    have hrest := cutFrom_of_unmarked true hclose []
    exact (hbefore.trans (congrArg (_ :: ·) hrest)).symm
  | @token before name rest segments hopen hclose _ ih =>
    have hbefore := cutFrom_of_firstBehind false hopen []
      (name ++ (closingMark ++ rest))
    have hname := cutFrom_of_firstBehind true hclose [] rest
    rw [ih]
    exact (hbefore.trans (congrArg (_ :: ·) hname)).symm

/-- **A template can be cut in one way only**, and the reader does it. -/
theorem cuts_iff {cs : List Char} {segments : List Segment} :
    Cuts cs segments ↔ segments = cut cs := by
  refine ⟨Cuts.eq_cut, fun h => ?_⟩
  obtain ⟨segments', hcuts⟩ := exists_cuts cs
  rwa [h, ← hcuts.eq_cut]

/-- Of three braces the first two are the mark, at the beginning of a token and at its end. -/
example : cut "\x7b\x7b\x7bname\x7d\x7d\x7d".toList =
    [.plain [], .token "\x7bname".toList, .plain ['\x7d']] := rfl

/-! ## Segments and what becomes of them -/

/-- A segment as it stands in the template. -/
def source : Segment → List Char
  | .plain cs => cs
  | .token name => openingMark ++ (name ++ closingMark)
  | .unclosed cs => openingMark ++ cs

/-- The names that a token can have. -/
def tokenNames : List String :=
  ["firstName", "lastName", "email", "phone", "brokerName", "companyName", "tenantName"]

/-- The names that a token can have, each with what it stands for. -/
def values (contact : Contact) (tenant : Tenant) : List (String × String) :=
  [("firstName", contact.firstName.getD ""), ("lastName", contact.lastName.getD ""),
    ("email", contact.email.getD ""), ("phone", contact.phone.getD ""),
    ("brokerName", tenant.name), ("companyName", tenant.name), ("tenantName", tenant.name)]

/-- What a segment becomes: a token with one of these names becomes what it stands for, and all else
is copied. -/
def merged (values : List (String × String)) : Segment → List Char
  | .token name =>
    ((values.lookup (String.ofList name)).map String.toList).getD (source (.token name))
  | segment => source segment

/-- Nothing of a template is lost by cutting it. -/
theorem Cuts.source {cs : List Char} {segments : List Segment} (h : Cuts cs segments) :
    segments.flatMap Template.source = cs := by
  induction h with
  | plain => exact List.append_nil _
  | unclosed => simp [Template.source]
  | token _ _ _ ih => simp [Template.source, ih]

variable (contact : Contact) (tenant : Tenant)

theorem tokenValue?_eq_lookup (name : String) :
    tokenValue? contact tenant name = (values contact tenant).lookup name := by
  simp only [tokenValue?, values, List.lookup_cons, List.lookup_nil]
  grind

theorem fill_eq_merged (segment : Segment) :
    fill contact tenant segment = merged (values contact tenant) segment := by
  cases segment with
  | plain | unclosed => rfl
  | token name =>
    rw [fill, merged, tokenValue?_eq_lookup]
    cases (values contact tenant).lookup (String.ofList name) <;> rfl

/-! ## Templates behind each other -/

/-- What was read before goes in front. -/
theorem flatMap_cutFrom (f : Segment → List Char) (hplain : ∀ cs, f (.plain cs) = cs)
    (read cs : List Char) :
    (cutFrom false read cs).flatMap f = read.reverse ++ (cut cs).flatMap f := by
  by_cases hopen : openingMark <:+: cs
  · obtain ⟨before, rest, rfl, hfirst⟩ := exists_firstBehind openingMark_ne_nil hopen
    have hcut := fun read =>
      congrArg (List.flatMap f) (cutFrom_of_firstBehind false hfirst read rest)
    refine (hcut read).trans (Eq.trans ?_ (congrArg (read.reverse ++ ·) (hcut []).symm))
    simp [marked, hplain]
  · have hcut := fun read => congrArg (List.flatMap f) (cutFrom_of_unmarked false hopen read)
    refine (hcut read).trans (Eq.trans ?_ (congrArg (read.reverse ++ ·) (hcut []).symm))
    simp [unmarked, hplain]

theorem getLast?_ne_of_cons {α : Type} {a x : α} {l : List α} (h : (a :: l).getLast? ≠ some x) :
    l.getLast? ≠ some x := fun heq => h (by rw [List.getLast?_cons, heq]; rfl)

/-- The reader comes to the second of two templates with nothing open. -/
theorem flatMap_cutFrom_append (f : Segment → List Char) (hplain : ∀ cs, f (.plain cs) = cs)
    (inside : Bool) (read a b : List Char)
    (hclosed : ∀ rest, .unclosed rest ∉ cutFrom inside read a)
    (hlast : a.getLast? ≠ some '\x7b') :
    (cutFrom inside read (a ++ b)).flatMap f =
      (cutFrom inside read a).flatMap f ++ (cut b).flatMap f := by
  fun_induction cutFrom inside read a with
  | case1 read =>
    rw [List.nil_append, flatMap_cutFrom f hplain]
    simp [hplain]
  | case2 read => exact absurd List.mem_cons_self (hclosed _)
  | case3 read cs ih =>
    have hrest := ih (fun rest hmem => hclosed rest (List.mem_cons_of_mem _ hmem))
      (getLast?_ne_of_cons (getLast?_ne_of_cons hlast))
    rw [List.flatMap_cons, List.append_assoc, ← hrest]
    rfl
  | case4 read cs ih =>
    have hrest := ih (fun rest hmem => hclosed rest (List.mem_cons_of_mem _ hmem))
      (getLast?_ne_of_cons (getLast?_ne_of_cons hlast))
    rw [List.flatMap_cons, List.append_assoc, ← hrest]
    rfl
  | case5 inside read c cs hopen hclose ih =>
    rw [← ih hclosed (getLast?_ne_of_cons hlast), List.cons_append, cutFrom_cons]
    -- a mark that stood here would lie across the seam
    intro hbegins
    cases inside with
    | false =>
      obtain ⟨rfl, hnext⟩ := List.cons_prefix_cons.1 hbegins
      cases cs with
      | nil => exact hlast rfl
      | cons d cs =>
        obtain ⟨rfl, -⟩ := List.cons_prefix_cons.1 hnext
        exact hopen cs rfl rfl rfl
    | true =>
      obtain ⟨rfl, hnext⟩ := List.cons_prefix_cons.1 hbegins
      cases cs with
      | nil => exact hclosed _ List.mem_cons_self
      | cons d cs =>
        obtain ⟨rfl, -⟩ := List.cons_prefix_cons.1 hnext
        exact hclose cs rfl rfl rfl

/-! ## One pass -/

variable {template : String}

theorem toList_personalize (template : String) :
    (personalize template contact tenant).toList =
      (cut template.toList).flatMap (merged (values contact tenant)) := by
  rw [personalize, String.toList_ofList]
  exact congrArg (List.flatMap · _) (funext (fill_eq_merged contact tenant))

/-- A token that has none of the names is copied. -/
theorem merged_of_notMem {segment : Segment}
    (h : ∀ name, segment = .token name → String.ofList name ∉ tokenNames) :
    merged (values contact tenant) segment = source segment := by
  cases segment with
  | plain | unclosed => rfl
  | token name =>
    have hnone : (values contact tenant).lookup (String.ofList name) = none := by
      refine List.lookup_eq_none_iff.2 fun p hp => ?_
      have hname : p.1 ∈ tokenNames := List.mem_map_of_mem (f := Prod.fst) hp
      rw [bne_iff_ne]
      exact fun heq => h name rfl (heq ▸ hname)
    rw [merged, hnone]
    rfl

/-- A token with one of the names becomes what it stands for, whatever that is. -/
theorem personalize_token {name value : String} (h : (name, value) ∈ values contact tenant) :
    personalize ("\x7b\x7b" ++ name ++ "\x7d\x7d") contact tenant = value := by
  simp only [values, List.mem_cons, Prod.mk.injEq, List.not_mem_nil, or_false] at h
  rcases h with ⟨rfl, rfl⟩ | ⟨rfl, rfl⟩ | ⟨rfl, rfl⟩ | ⟨rfl, rfl⟩ | ⟨rfl, rfl⟩ | ⟨rfl, rfl⟩ |
    ⟨rfl, rfl⟩
  all_goals simp [personalize, cut, cutFrom, fill, tokenValue?]

/-- Such a token leaves nothing open. -/
theorem closed_token {name : String} (h : name ∈ tokenNames) :
    (∀ rest, .unclosed rest ∉ cut ("\x7b\x7b" ++ name ++ "\x7d\x7d").toList) ∧
      ("\x7b\x7b" ++ name ++ "\x7d\x7d").toList.getLast? ≠ some '\x7b' := by
  simp only [tokenNames, List.mem_cons, List.not_mem_nil, or_false] at h
  rcases h with rfl | rfl | rfl | rfl | rfl | rfl | rfl
  all_goals simp [cut, cutFrom]

/-- Of two templates each is filled in by itself, if nothing is open at the end of the first. -/
theorem personalize_append {a : String} (hclosed : ∀ rest, .unclosed rest ∉ cut a.toList)
    (hlast : a.toList.getLast? ≠ some '\x7b') (b : String) :
    personalize (a ++ b) contact tenant =
      personalize a contact tenant ++ personalize b contact tenant := by
  rw [← String.toList_inj, String.toList_append, toList_personalize, toList_personalize,
    toList_personalize, String.toList_append]
  exact flatMap_cutFrom_append _ (fun _ => rfl) false [] _ _ hclosed hlast

/-- **A template is filled in in one pass.**  It is cut in one way, which has to do with the
template alone.  What it becomes are its segments, each token with one of the names replaced by what
this stands for.  So a template without such a token stays as it is.  If nothing is open at the end
of a template, then what comes behind it is filled in by itself; in particular what a token behind
it stands for goes in as it is, braces and all. -/
theorem personalize_single_pass (template : String) :
    ∃ segments, (∀ segments', Cuts template.toList segments' ↔ segments' = segments) ∧
      ∀ contact tenant,
        (personalize template contact tenant).toList =
          segments.flatMap (merged (values contact tenant)) ∧
        ((∀ name, .token name ∈ segments → String.ofList name ∉ tokenNames) →
          personalize template contact tenant = template) ∧
        ((∀ rest, .unclosed rest ∉ segments) → template.toList.getLast? ≠ some '\x7b' →
          (∀ behind, personalize (template ++ behind) contact tenant =
            personalize template contact tenant ++ personalize behind contact tenant) ∧
          ∀ name value behind, (name, value) ∈ values contact tenant →
            personalize (template ++ ("\x7b\x7b" ++ name ++ "\x7d\x7d" ++ behind)) contact tenant =
              personalize template contact tenant ++
                (value ++ personalize behind contact tenant)) := by
  refine ⟨cut template.toList, fun _ => cuts_iff, fun contact tenant =>
    ⟨toList_personalize contact tenant template, fun hnone => ?_, fun hclosed hlast => ?_⟩⟩
  · have hsource : (cut template.toList).flatMap (merged (values contact tenant)) =
        (cut template.toList).flatMap source := by
      refine List.flatMap_congr fun segment hmem => merged_of_notMem contact tenant ?_
      rintro name rfl
      exact hnone name hmem
    rw [← String.toList_inj, toList_personalize, hsource]
    exact (cuts_iff.2 rfl).source
  · have happend := personalize_append contact tenant hclosed hlast
    refine ⟨happend, fun name value behind hvalue => ?_⟩
    have hname : name ∈ tokenNames := List.mem_map_of_mem (f := Prod.fst) hvalue
    rw [happend, personalize_append contact tenant (closed_token hname).1 (closed_token hname).2,
      personalize_token contact tenant hvalue]

end Template
end Mailshot
