import Mailshot.Proofs.Audience.Resolution
import Mailshot.Proofs.Audience.Written
import Mailshot.Proofs.Dispatch.Alone
import Mailshot.Proofs.Store.Reached

/-!
# The preview says what the dispatch will say

How many contacts a group means is counted in two ways.  The preview counts what the store has for
the group.  A dispatch reads the group back from the text of a segment, collects the contacts that
it means, leaves out those of other tenants and all but the first of each identifier, and carries
the number along to its report.

* `Outside.preview_eq_size`: the two numbers are the same where contacts are told apart by their
  identifiers.
* `Outside.Headed` is the number on its way to the report, in whatever order turns are had, and
  whether or not a channel asks for a stop.
-/

set_option autoImplicit false

namespace Mailshot
namespace Dispatch

/-- A dispatch that is sending neither claims nor completes. -/
theorem Engine.Goes.isGuard_eq_of_sending {σ : Type} {e : Engine σ} {r : Run} {d : Option Deed}
    {now : Stage} (h : e.Goes (.sending r) d now) : ∀ deed ∈ d, deed.isGuard = false := by
  cases h with
  | work hgoes => exact hgoes.isGuard_eq
  | rest | fail | drain => exact fun _ hdeed => by cases hdeed

namespace Outside

/-! ## The number at the beginning -/

section Count

variable {s : Store} {tenant : String}

theorem preview_eq (h : s.holdsBytes tenant = false) (g : RuleGroup) :
    (Connection.contactSource.preview g tenant (.ofStore s)).1 =
      s.countMatching g.compile tenant := by
  rw [ContactSource.preview, Engine.bind_apply, (Store.search_of_texts h).2]
  rfl

/-- **One group means as many contacts as are counted for it.** -/
theorem preview_eq_size (h : s.Reached) (g : RuleGroup) (tenant : String) :
    (Connection.contactSource.preview g tenant (.ofStore s)).1 =
      (gathered s tenant .empty g).size := by
  rw [preview_eq (h.holdsBytes_eq tenant), Store.countMatching, gathered]
  split
  · rfl
  · next hnever =>
    have hmatching : s.matching g.compile tenant =
        (s.contactsOf tenant).filter g.compile.holds := by
      rw [Store.matching, if_neg hnever]
    have hown : ((s.contactsOf tenant).filter g.compile.holds).filter (·.tenant = tenant) =
        (s.contactsOf tenant).filter g.compile.holds :=
      List.filter_eq_self.2 fun c hc =>
        decide_eq_true (Store.tenant_of_mem_contactsOf (List.mem_filter.1 hc).1)
    have hnodup : (((s.contactsOf tenant).filter g.compile.holds).map (·.id)).Nodup :=
      (List.filter_sublist.map _).nodup (h.nodup_contactsOf tenant)
    show _ = (Audience.ofList _).contacts.length
    rw [Audience.contacts_ofList, hmatching, hown, Contact.firsts_eq_self hnodup,
      List.countP_eq_length_filter]

/-- A group that is read from its own text gathers the same contacts. -/
theorem gathered_text {g : RuleGroup} (hdepth : g.toJson.depth < 128)
    (hback : ∀ x, .real x ∈ g.toJson.numbers → (JsonNumber.real x).ReadsBack)
    (audience : Audience) :
    gathered s tenant audience (.ofTextOrEmpty g.text) = gathered s tenant audience g := by
  have hlimit : g.toJson.depth ≤ Json.depthLimit := by
    rw [Json.depthLimit]
    omega
  rw [gathered, gathered,
    RuleGroup.compile_ofTextOrEmpty_text hlimit (JsonNumber.readsBack_of_real hback)]

end Count

/-! ## The number on its way -/

section Headed

variable {μ : Type} {o : Outside μ} {id : String} {concurrency size : Nat}
  {defaultSender : Option String}

/-- A dispatch of a campaign is under way to a report on an audience of a size, or it broke down
because more workers are to be allowed than there can be. -/
inductive Headed (limit size : Nat) (id : String) : Stage → Connection → Prop
  /-- It sends. -/
  | sending {r : Run} {c : Connection} (hid : r.job.campaign.id = id)
      (hsize : r.job.audienceSize = size) (hc : c.Underway id) : Headed limit size id (.sending r) c
  /-- It sent everything. -/
  | completing {report : Report} {c : Connection} (hid : report.campaign = id)
      (hsize : report.audienceSize = size)
      (houtcome : report.outcome = .completed ∨ report.outcome = .cancelled)
      (hc : c.Underway id) : Headed limit size id (.completing report) c
  /-- It has a report. -/
  | reported {report : Report} {c : Connection} (hsize : report.audienceSize = size)
      (houtcome : report.outcome = .completed ∨ report.outcome = .cancelled) :
      Headed limit size id (.ended (.answered (.ok report))) c
  /-- It broke down. -/
  | crashed {c : Connection} (hlimit : maxWorkers < limit) :
      Headed limit size id (.ended .crashed) c

/-- While a dispatch is sending, its campaign can be completed at any time. -/
theorem underway_step {r : Run} {s : Connection × μ} (turn : Engine.Turn)
    (hs : s.1.Underway id) :
    ((o.engine id concurrency defaultSender).step turn (.sending r) s).2.1.Underway id := by
  have hlawful : (o.engine id concurrency defaultSender).Lawful Prod.fst := lawful
  have hgoes := (o.engine id concurrency defaultSender).goes_step turn (.sending r) s
  have heffect := hlawful.effect_step turn (.sending r) s
  have htouches := @touches_step μ o id concurrency defaultSender turn (.sending r) s
  generalize (o.engine id concurrency defaultSender).deed turn (.sending r) s = d at *
  have hguard := hgoes.isGuard_eq_of_sending
  have hopen := (htouches fun deed hdeed q hq => by
    have hno := hguard deed hdeed
    cases deed with
    | asked | completed => cases hno
    | _ => cases hq).2
  refine ⟨hopen.trans hs.1, ?_⟩
  cases heffect with
  | ask | complete => cases hguard _ rfl
  | mind _ helse => exact helse.status?_eq rfl hs.2

/-- **One more step on the way to the report.** -/
theorem Headed.step {stage : Stage} {s : Connection × μ} (turn : Engine.Turn)
    (h : Headed (max 1 concurrency) size id stage s.1) :
    Headed (max 1 concurrency) size id
      ((o.engine id concurrency defaultSender).step turn stage s).1
      ((o.engine id concurrency defaultSender).step turn stage s).2.1 := by
  cases h with
  | @sending r _ hid hsize hc =>
    have hgoes := (o.engine id concurrency defaultSender).goes_step turn (.sending r) s
    have hs : ((o.engine id concurrency defaultSender).step turn (.sending r) s).2.1.Underway id :=
      underway_step turn hc
    generalize (o.engine id concurrency defaultSender).deed turn (.sending r) s = d at hgoes
    generalize (o.engine id concurrency defaultSender).step turn (.sending r) s = next at hgoes hs ⊢
    obtain ⟨now, s'⟩ := next
    dsimp only at hgoes hs ⊢
    cases hgoes with
    | rest => exact .sending hid hsize hs
    | work hwork => exact .sending (hwork.job_eq ▸ hid) (hwork.job_eq ▸ hsize) hs
    | drain =>
      refine .completing hid hsize ?_ hs
      rw [Run.report]
      cases r.stopped with
      | true => exact .inr rfl
      | false => exact .inl rfl
    | fail hstage => cases hstage
  | @completing report _ hid hsize houtcome hc =>
    cases turn with
    | worker i => exact .completing hid hsize houtcome hc
    | dispatcher =>
      subst hid
      have hanswer : ((o.engine report.campaign concurrency defaultSender).campaigns.complete
          report.campaign s).1 = .ok () := (hc.complete _).1
      simp only [Engine.step, Engine.bind_apply, hanswer]
      exact .reported hsize houtcome
  | reported hsize houtcome => cases turn <;> exact .reported hsize houtcome
  | crashed hlimit => cases turn <;> exact .crashed hlimit

/-- A dispatch that claims its campaign is under way from there on. -/
theorem headed_of_runs {c : Connection} {m : μ} {recipients : Recipients}
    (hawaits : c.Awaits id recipients) {campaign : Campaign} {audience : Audience}
    {tenant : Tenant} (hid : campaign.id = id) {ds : List Deed} {now : Stage} {t : Connection × μ}
    (h : (o.engine id concurrency defaultSender).Runs (.claiming campaign audience tenant) (c, m)
      ds now t) :
    (now = .claiming campaign audience tenant ∧ t = (c, m)) ∨
      Headed (max 1 concurrency) audience.size id now t.1 := by
  subst hid
  induction h with
  | refl => exact .inl ⟨rfl, rfl⟩
  | step _ turn ih =>
    rcases ih with ⟨rfl, rfl⟩ | hheaded
    · cases turn with
      | worker i => exact .inl ⟨rfl, rfl⟩
      | dispatcher =>
        obtain ⟨hclaim, hunderway⟩ := hawaits.claim_underway (o.now m)
        have hwon : ((o.engine campaign.id concurrency defaultSender).campaigns.claim campaign.id
            (c, m)).1 = .ok true := hclaim
        refine .inr ?_
        simp only [Engine.step, Engine.bind_apply, hwon, Engine.pure_apply, Engine.start_eq]
        split
        · next hlimit => exact .crashed hlimit
        · exact .sending rfl rfl hunderway
    · exact .inr (hheaded.step turn)

/-- **A dispatch to the segments of a campaign reports the size of the audience** that their groups
mean, unless more workers are to be allowed than there can be. -/
theorem reports_size {s : Store} {campaign : Campaign} {tenant : Tenant}
    (hload : s.load id = .ok campaign) (hsendable : campaign.status.isSendable = true)
    (htexts : s.holdsBytes campaign.tenant = false)
    (htenant : s.tenant campaign.tenant = .ok tenant) {m : μ} {ds : List Deed} {ending : Ending}
    {t : Connection × μ}
    (h : (o.engine id concurrency defaultSender).Runs (.loading id .segments) (.ofStore s, m) ds
      (.ended ending) t) :
    (maxWorkers < max 1 concurrency ∧ ending = .crashed) ∨
      ∃ report, ending = .answered (.ok report) ∧
        (report.outcome = .completed ∨ report.outcome = .cancelled) ∧
        report.audienceSize = ((s.linkedRuleGroups id).foldl (gathered s campaign.tenant)
          .empty).size := by
  have hfind : s.CanFind id campaign.tenant .segments := fun hbytes => by
    rw [htexts] at hbytes
    cases hbytes
  have hway : (o.engine id concurrency defaultSender).Proceeds (.loading id .segments)
      (.ofStore s, m) [] (.claiming campaign ((s.linkedRuleGroups id).foldl
        (gathered s campaign.tenant) .empty) tenant) (.ofStore s, m) := by
    refine (proceeds_segments (c := .ofStore s) hload hsendable hfind).trans
      (proceeds_reading rfl ?_)
    have hread : (Connection.tenant campaign.tenant (.ofStore s)).1 = .ok tenant := htenant
    simp only [Engine.step, Engine.bind_apply, tenant_apply, hread]
    rfl
  have hawaits : (Connection.ofStore s).Awaits id .segments :=
    ⟨rfl, campaign, tenant, hload, hsendable, htenant, hfind⟩
  rcases headed_of_runs hawaits (Store.id_of_load hload) (h.meets_ended hway) with
    ⟨heq, -⟩ | hheaded
  · cases heq
  · cases hheaded with
    | reported hsize houtcome => exact .inr ⟨_, rfl, houtcome, hsize⟩
    | crashed hlimit => exact .inl ⟨hlimit, rfl⟩

end Headed

/-! ## The number at the end -/

/-- **The preview agrees with the dispatch.**  Let a campaign that can be dispatched go to one
segment of its tenant, which was made from a rule group that nests no deeper than can be read and
whose numbers are read back.  Whatever was stored since then, and whatever is outside of the store,
in whatever order the dispatch has its turns: unless more workers are to be allowed than there can
be, it has a report, and the size of the audience in it is the preview of the group. -/
theorem preview_eq_audienceSize {s₁ s₂ s : Store} (hreached : s₁.Reached)
    {segment createdAt tenant name : String} {g : RuleGroup}
    (hmade : s₁.createSegment segment createdAt tenant name g = .ok s₂) (hlater : s₂.Later s)
    (hdepth : g.toJson.depth < 128)
    (hback : ∀ x, .real x ∈ g.toJson.numbers → (JsonNumber.real x).ReadsBack)
    {id : String} {campaign : Campaign} (hload : s.load id = .ok campaign)
    (htenant : campaign.tenant = tenant) (hsendable : campaign.status.isSendable = true)
    (hsole : s.SoleSegment id tenant segment) {μ : Type} (o : Outside μ) (concurrency : Nat)
    (defaultSender : Option String) (m : μ) (turns : List Engine.Turn) :
    let e := o.engine id concurrency defaultSender
    let run := e.follow turns (.loading id .segments) (.ofStore s, m)
    let out := e.finish run.1.2 run.2
    (maxWorkers < max 1 concurrency ∧ out.1 = .crashed) ∨
      ∃ report, out.1 = .answered (.ok report) ∧
        (report.outcome = .completed ∨ report.outcome = .cancelled) ∧
        report.audienceSize = (Connection.contactSource.preview g tenant (.ofStore s)).1 := by
  subst htenant
  obtain ⟨hchange, hstored⟩ := Store.of_createSegment hmade
  have hs : s.Reached := (Relation.ReflTransGen.tail hreached hchange).trans hlater
  have hgroups := hsole.linkedRuleGroups hload (hlater.find?_segments hstored) rfl
  dsimp only at hgroups
  obtain ⟨owner, howner⟩ := hs.sound.exists_tenant hload
  have hruns := (Engine.runs_follow (e := o.engine id concurrency defaultSender) turns
    (.loading id .segments) (Connection.ofStore s, m)).finish
  rcases reports_size hload hsendable (hs.holdsBytes_eq _) howner hruns with
    hcrashed | ⟨report, hreport, houtcome, hsize⟩
  · exact .inl hcrashed
  · refine .inr ⟨report, hreport, houtcome, ?_⟩
    rw [hsize, hgroups, preview_eq_size hs, List.foldl_cons, List.foldl_nil,
      gathered_text hdepth hback]

end Outside

namespace Sample

/-- Who spent at least one half. -/
def group : RuleGroup :=
  ⟨.all, [⟨"spent", .greaterOrEqual, .number (.real ⟨false, 1022 * Nat.pow 2 52, by decide⟩)⟩]⟩

/-- The columns of a contact of which only the labels cannot be read. -/
def unreadable : ContactRow where
  tenant := "t"
  firstName := none
  lastName := none
  email := none
  phone := none
  company := none
  attributes := .text "\x7b\x7d"
  metrics := .text "\x7b\"spent\":1\x7d"
  tags := .text "?"

/-- A tenant with a segment. -/
def segmented : Store := Store.empty.after
  [.upsertTenant tenant, .createSegment "g" "" "t" "Spenders" group]

/-- Then a contact, another one that cannot be read, and a draft that goes to the segment. -/
def linked : Store :=
  Store.after { segmented with contacts := segmented.contacts.insert "x" unreadable }
    [.upsertContact { Contact.ofIdentity "a" "t" with
        metrics := Dictionary.empty.insert "spent" (.finite ⟨false, 1023 * Nat.pow 2 52, by decide⟩) },
      .createCampaign campaign.id "" ⟨"t", "News", "Hello", "Hello again", none, none⟩,
      .link campaign.id "g"]

theorem later_linked : segmented.Later linked :=
  (Relation.ReflTransGen.single (.columns "x" unreadable rfl rfl)).trans (Store.later_after _ _)

end Sample

/-- One contact of the group can be read: the preview counts this one, and so does the report. -/
theorem Outside.audienceSize_beside_unreadable :
    Store.contactOfRow? "x" Sample.unreadable = none ∧
      (Connection.contactSource.preview Sample.group "t" (.ofStore Sample.linked)).1 = 1 ∧
      ∃ report, ((Sample.outside.engine Sample.campaign.id 1 none).execute Sample.campaign.id
          .segments (.ofStore Sample.linked, ())).1 = .answered (.ok report) ∧
        report.audienceSize = 1 := by
  have hreached : (Store.empty.after [.upsertTenant Sample.tenant]).Reached := Store.later_after _ _
  have hmade : (Store.empty.after [.upsertTenant Sample.tenant]).createSegment "g" "" "t" "Spenders"
      Sample.group = .ok Sample.segmented := rfl
  have hback : ∀ x, .real x ∈ Sample.group.toJson.numbers → (JsonNumber.real x).ReadsBack := by
    intro x hx
    have hreal : Sample.group.toJson.numbers =
        [.real ⟨false, 1022 * Nat.pow 2 52, by decide⟩] := rfl
    rw [hreal, List.mem_singleton] at hx
    rw [hx]
    decide +kernel
  have hload : Sample.linked.load Sample.campaign.id = .ok Sample.campaign := rfl
  have hsole : Sample.linked.SoleSegment Sample.campaign.id "t" "g" := by
    refine ⟨by decide +kernel, fun other row hlink _ _ => ?_⟩
    have hlinks : Sample.linked.links = [(Sample.campaign.id, "g")] := by decide +kernel
    rw [hlinks, List.mem_singleton] at hlink
    exact congrArg Prod.snd hlink
  have hcount :
      (Connection.contactSource.preview Sample.group "t" (.ofStore Sample.linked)).1 = 1 := by
    rw [preview_eq (by decide +kernel)]
    decide +kernel
  refine ⟨by decide +kernel, hcount, ?_⟩
  rcases preview_eq_audienceSize hreached hmade Sample.later_linked (by decide +kernel) hback hload
    rfl rfl hsole Sample.outside 1 none () [] with ⟨hlimit, -⟩ | ⟨report, hreport, -, hsize⟩
  · exact absurd hlimit (by decide)
  · exact ⟨report, hreport, hsize.trans hcount⟩

end Dispatch
end Mailshot
