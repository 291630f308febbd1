import Mailshot.Proofs.Dispatch.Account

/-!
# What the report says

The numbers of a report come from different places: the size of the audience is taken at the
beginning, contacts without an address are counted by the dispatcher, messages are counted by the
workers that settle them, and workers that were lost are counted when they are missed.  That they
fit together at the end follows from the books that are kept on the way
(`Mailshot.Proofs.Dispatch.Account`), since at the end nobody is ahead and nobody is at work.
-/

set_option autoImplicit false

namespace Mailshot

/-- Nobody can be written to whose address is missing or has nothing but blanks. -/
theorem Contact.isNone_address? (c : Contact) : c.address?.isNone = c.email.all blank := by
  rw [address?]
  cases c.email with
  | none => rfl
  | some s => cases h : blank s <;> simp_all [blank, Option.filter]

theorem Contact.isSome_address? (c : Contact) : c.address?.isSome = !c.email.all blank := by
  rw [← c.isNone_address?, Option.not_isNone]

namespace Dispatch

/-- The report that an ending comes with, final or not. -/
def Ending.report? : Ending → Option Report
  | .answered (.ok report) => some report
  | .answered (.error (.finalize report _)) => some report
  | _ => none

theorem Ending.report?_closing (report : Report) (answer : Except CampaignError Unit) :
    (Ending.closing report answer).report? = some report := by
  cases answer <;> rfl

theorem Run.outcome_report (r : Run) :
    r.report.outcome = if r.stopped then .cancelled else .completed := rfl

/-- **At the end everybody is accounted for.**  Of the audience some contacts were taken and the
others left: those that were taken were counted or had a worker started that came to its end, and
others were left just if the dispatch was asked to stop, which happens at a contact with an
address. -/
theorem Run.Trail.drained {σ : Type} {e : Engine σ} {campaign : Campaign} {audience : Audience}
    {tenant : Tenant} {limit : Nat} {ds : List Deed} {r : Run}
    (h : (e.opening campaign audience tenant).Trail limit ds r) (hdrained : r.IsDrained) :
    ∃ taken rest, audience.contacts = taken ++ rest ∧
      r.skipped = taken.countP (·.email.all blank) ∧
      startedIn ds = taken.filter (!·.email.all blank) ∧
      r.sent + r.failed + r.lost = (startedIn ds).length ∧
      ((recordedIn ds).map (·.contact) ++ (lostIn ds).map (·.id)).Perm
        ((startedIn ds).map (·.id)) ∧
      if r.stopped then ∃ contact later, rest = contact :: later ∧ ¬ contact.email.all blank
      else rest = [] := by
  obtain ⟨hnext, hwaiting, hworkers⟩ := hdrained
  obtain ⟨taken, htaken⟩ := h.inOrder
  have hhand := h.inHand
  have hahead : r.ahead = [] := by rw [ahead, hnext, hwaiting]; rfl
  have hsettled := hhand.settled
  have haccounted := hhand.accounted
  have hskipped := htaken.skipped
  have hstarted := htaken.started
  rw [hworkers, List.countP_nil, Nat.add_zero] at hsettled
  rw [hworkers, List.map_nil, List.append_nil] at haccounted
  simp only [Contact.isNone_address?] at hskipped
  simp only [Contact.isSome_address?] at hstarted
  cases hstopped : r.stopped with
  | false =>
    refine ⟨taken, [], ?_, hskipped, hstarted, hsettled, haccounted, rfl⟩
    rw [htaken.going hstopped, hahead]
  | true =>
    obtain ⟨-, contact, later, haudience, haddress⟩ := htaken.halted hstopped
    refine ⟨taken, contact :: later, haudience, hskipped, hstarted, hsettled, haccounted, contact,
      later, rfl, ?_⟩
    rw [Contact.isSome_address?, Bool.not_eq_true'] at haddress
    rw [haddress]
    exact Bool.false_ne_true

/-- The report on a dispatch that dealt with its whole audience, in numbers that can be told from
what was done. -/
structure Report.Covers (campaign : String) (audience : Audience) (ds : List Deed)
    (report : Report) : Prop where
  campaign : report.campaign = campaign
  outcome : report.outcome = .completed
  audienceSize : report.audienceSize = audience.size
  /-- Contacts without an address were skipped. -/
  skipped : report.skipped = audience.contacts.countP (·.address?.isNone)
  /-- Workers were started for the others. -/
  started : startedIn ds = audience.contacts.filter (·.address?.isSome)
  /-- Messages that a channel took were sent. -/
  sent : report.sent = (calledIn ds).countP (·.2.2.2.isAccepted)
  /-- The others failed. -/
  failed : report.sent + report.failed = (startedIn ds).length

/-- **A dispatch that was not stopped dealt with its whole audience.** -/
theorem Run.Trail.covers {σ : Type} {e : Engine σ} {campaign : Campaign} {audience : Audience}
    {tenant : Tenant} {limit : Nat} {ds : List Deed} {r : Run}
    (h : (e.opening campaign audience tenant).Trail limit ds r) (hdrained : r.IsDrained)
    (hgoing : r.stopped = false) : r.report.Covers campaign.id audience ds := by
  obtain ⟨hnext, hwaiting, hworkers⟩ := hdrained
  obtain ⟨taken, htaken⟩ := h.inOrder
  have haudience : audience.contacts = taken := by
    rw [htaken.going hgoing, ahead, hnext, hwaiting]
    exact List.append_nil taken
  have hsettled := h.inHand.settled
  rw [hworkers, List.countP_nil, Nat.add_zero] at hsettled
  subst haudience
  constructor
  · exact congrArg Campaign.id h.campaign_eq
  · rw [r.outcome_report, hgoing]
    rfl
  · exact htaken.audienceSize
  · exact htaken.skipped
  · exact htaken.started
  · exact h.sent_eq.trans (Nat.zero_add _)
  · rw [← hsettled, Run.report, Nat.add_assoc]

/-- Two such reports are the same if as many messages were taken in both dispatches. -/
theorem Report.Covers.report_eq {campaign : String} {audience : Audience} {ds ds' : List Deed}
    {report report' : Report} (h : report.Covers campaign audience ds)
    (h' : report'.Covers campaign audience ds') (hcalled : (calledIn ds').Perm (calledIn ds)) :
    report' = report := by
  have hsent : report'.sent = report.sent := by
    rw [h'.sent, h.sent, hcalled.countP_eq]
  have hfailed : report'.failed = report.failed := by
    have hboth := h'.failed.trans (congrArg List.length (h'.started.trans h.started.symm))
    rw [← h.failed, hsent] at hboth
    exact Nat.add_left_cancel hboth
  obtain ⟨campaign, outcome, audienceSize, sent, failed, skipped⟩ := report
  obtain ⟨campaign', outcome', audienceSize', sent', failed', skipped'⟩ := report'
  congr 1
  · exact h'.campaign.trans h.campaign.symm
  · exact h'.outcome.trans h.outcome.symm
  · exact h'.audienceSize.trans h.audienceSize.symm
  · exact h'.skipped.trans h.skipped.symm

/-- Contacts with a property and contacts without it are all there are. -/
theorem length_eq_countP_add_length_filter {α : Type} (p : α → Bool) (l : List α) :
    l.length = l.countP p + (l.filter (!p ·)).length := by
  rw [l.length_eq_countP_add_countP p, ← List.countP_eq_length_filter]
  congr 2
  funext a
  cases p a <;> rfl

namespace Engine

/-- **The report accounts for the whole audience.**  A dispatch that got its campaign comes to its
end with a report, unless it was to allow for more workers than there can be.  The contacts before
the stopping point are those that were taken: the ones without an address make the number of
contacts that were skipped, the others had a worker started, and what came of these makes the other
two numbers.  The three numbers add up to the size of the audience just if the dispatch went through
with it, and fall short of it just if it was asked to stop, which happens at a contact with an
address. -/
theorem report_accounts_for_audience {σ : Type} {e : Engine σ} {campaign : Campaign}
    {audience : Audience} {tenant : Tenant} {ds : List Deed} {ending : Ending}
    (h : e.Path (.claiming campaign audience tenant) ds (.ended ending))
    (hwins : .asked campaign.id (.ok true) ∈ ds) :
    (ending = .crashed ∧ maxWorkers < e.limit) ∨
      ∃ report taken rest, ending.report? = some report ∧ audience.contacts = taken ++ rest ∧
        report.audienceSize = audience.size ∧
        report.sent + report.failed + report.skipped ≤ report.audienceSize ∧
        (report.outcome = .completed ↔
          report.sent + report.failed + report.skipped = report.audienceSize) ∧
        (report.outcome = .cancelled ↔
          report.sent + report.failed + report.skipped < report.audienceSize) ∧
        report.skipped = taken.countP (·.email.all blank) ∧
        startedIn ds = taken.filter (!·.email.all blank) ∧
        report.sent + report.failed = (startedIn ds).length ∧
        (rest = [] ∨ ∃ contact later, rest = contact :: later ∧ ¬ contact.email.all blank) := by
  cases h.since with
  | unclaimed hanswer =>
    rw [List.mem_singleton] at hwins
    injection hwins with _ heq
    exact absurd heq.symm hanswer
  | crashed hlimit => exact .inl ⟨rfl, hlimit⟩
  | @closed ds r hlimit htrail hdrained answer =>
    obtain ⟨taken, rest, haudience, hskipped, hstarted, hsettled, -, hrest⟩ :=
      htrail.drained hdrained
    have hsize : r.report.audienceSize = audience.size := by
      rw [Run.report, htrail.job_eq]
      rfl
    have htaken := length_eq_countP_add_length_filter (fun c : Contact => c.email.all blank) taken
    have hsum : r.report.sent + r.report.failed + r.report.skipped + rest.length =
        r.report.audienceSize := by
      rw [← hskipped, ← hstarted, ← hsettled] at htaken
      rw [hsize, Audience.size, haudience, List.length_append, htaken]
      simp only [Run.report]
      omega
    have hcompleted : r.report.outcome = .completed ↔ rest.length = 0 := by
      rw [r.outcome_report]
      split at hrest
      · next hstopped =>
        obtain ⟨contact, later, rfl, -⟩ := hrest
        simp [hstopped]
      · next hstopped => simp [hstopped, hrest]
    have hcancelled : r.report.outcome = .cancelled ↔ ¬ rest.length = 0 := by
      rw [← hcompleted, r.outcome_report]
      cases r.stopped <;> simp
    have hds : startedIn (.asked campaign.id (.ok true) ::
        (ds ++ [.completed r.job.campaign.id answer])) = startedIn ds := by simp
    rw [hds]
    refine .inr ⟨r.report, taken, rest, Ending.report?_closing _ _, haudience, hsize, by omega,
      ?_, ?_, hskipped, hstarted, ?_, ?_⟩
    · rw [hcompleted]
      omega
    · rw [hcancelled]
      omega
    · rw [← hsettled, Run.report, Nat.add_assoc]
    · split at hrest
      · exact .inr hrest
      · exact .inl hrest

/-- Of two contacts one is sent to and one has no address. -/
theorem report_accounts_for_both :
    ∃ ds report, (Sample.engine .console 1).Path
        (.claiming Sample.campaign (.ofList Sample.contacts) Sample.tenant) ds
        (.ended (.answered (.ok report))) ∧
      .asked "c" (.ok true) ∈ ds ∧ report.audienceSize = 2 ∧
      (report.outcome = .completed ↔
        report.sent + report.failed + report.skipped = report.audienceSize) := by
  have hpath := path_follow (e := Sample.engine .console 1)
    [.dispatcher, .dispatcher, .dispatcher, .worker 0, .dispatcher, .worker 0, .dispatcher,
      .dispatcher]
    (.claiming Sample.campaign (.ofList Sample.contacts) Sample.tenant) Sample.connection
  refine ⟨_, ⟨"c", .completed, 2, 1, 0, 1⟩, hpath, List.mem_cons_self, rfl, ?_⟩
  rcases report_accounts_for_audience hpath List.mem_cons_self with
    ⟨hcrashed, -⟩ | ⟨report, taken, rest, hreport, -, -, -, hcompleted, -⟩
  · cases hcrashed
  · cases hreport
    exact hcompleted

end Engine
end Dispatch
end Mailshot
