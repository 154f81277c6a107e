import NodePki.Proofs.Ensure.Protocol
import NodePki.Proofs.Program.Lockstep

/-!
# Keys are not given away

Two calls for a node's secret that differ only in octets: in those of the key and the chain that are
issued, and in those under the entries of the secrets that the store answers. Neither what is
reported, nor what the store is asked, nor an error tells the two apart
(`NodeCall.alike_of_alike_answers`).

The plan is in step with itself (`NodeCall.inStep_plan`), so its steps are alike; what is reported
is told from the steps, and from what `issue` reports itself.
-/

namespace NodePki

/-- The event that is reported, if one is. -/
def Exchange.event? : Exchange Surroundings → Option Log.Event
  | ⟨.report event, _⟩ => some event
  | _ => none

/-- The events that are reported. -/
def Trace.events (t : Trace Surroundings) : List Log.Event := t.filterMap Exchange.event?

theorem Trace.events_append (t u : Trace Surroundings) :
    events (t ++ u) = events t ++ events u :=
  List.filterMap_append

/-! ### Alike but for octets -/

/-- The same but for the octets under the keys. -/
structure Kube.Secret.Alike (s s' : Kube.Secret) : Prop where
  rest : { s with data := none } = { s' with data := none }
  present : s.data.isSome = s'.data.isSome
  keys : ∀ key, (s.octets? key).isSome = (s'.octets? key).isSome

/-- Alike successes, or one error. -/
inductive Agree {α : Type} (R : α → α → Prop) : Except Error α → Except Error α → Prop
  | ok {a b : α} (alike : R a b) : Agree R (.ok a) (.ok b)
  | error (e : Error) : Agree R (.error e) (.error e)

/-- Alike outcomes of a creation. -/
inductive CreateOutcome.Alike : CreateOutcome → CreateOutcome → Prop
  | created {s s' : Kube.Secret} (alike : s.Alike s') : Alike (.created s) (.created s')
  | alreadyExists : Alike .alreadyExists .alreadyExists

/-- The same question, or the creation of alike secrets. -/
inductive SecretStore.Op.Alike : SecretStore.Op → SecretStore.Op → Prop
  | get (ns name : String) : Alike (.get ns name) (.get ns name)
  | create (ns : String) {s s' : Kube.Secret} (alike : s.Alike s') :
      Alike (.create ns s) (.create ns s')

/-- A store answers alike; of answers to questions of two kinds nothing is asked. -/
def SecretStore.TellsAlike : Exchange SecretStore → Exchange SecretStore → Prop
  | ⟨.get _ _, answer⟩, ⟨.get _ _, answer'⟩ =>
    Agree (Option.Rel Kube.Secret.Alike) answer answer'
  | ⟨.create _ _, answer⟩, ⟨.create _ _, answer'⟩ => Agree CreateOutcome.Alike answer answer'
  | _, _ => True

/-- A store or a caller answers alike. Any two certificates are alike. -/
def Caller.TellsAlike :
    Exchange (SecretStore.sum Caller) → Exchange (SecretStore.sum Caller) → Prop
  | ⟨.inl op, answer⟩, ⟨.inl op', answer'⟩ => SecretStore.TellsAlike ⟨op, answer⟩ ⟨op', answer'⟩
  | ⟨.inr .issue, answer⟩, ⟨.inr .issue, answer'⟩ => Agree (fun _ _ => True) answer answer'
  | _, _ => True

namespace Kube.Secret

variable {s s' : Kube.Secret}

/-- The check of a node's secret looks at no octets. -/
theorem Alike.checkNode (h : s.Alike s') (name certificateType : String) :
    s.checkNode name certificateType = s'.checkNode name certificateType := by
  have metadata : s.metadata = s'.metadata := by injection h.rest
  unfold Secret.checkNode
  rw [metadata, h.keys, h.keys]

/-- Secrets of nodes with two certificates. -/
theorem alike_ofNode (name ns podName certificateType : String) (extra : TextMap)
    (owner : OwnerReference) (issued issued' : IssuedCertificate) :
    (ofNode name ns podName certificateType extra owner issued).Alike
      (ofNode name ns podName certificateType extra owner issued') where
  rest := rfl
  present := rfl
  keys key := by
    simp only [ofNode, octets?, Dict.ofList, List.foldl, Option.bind_some, Dict.get?_insert]
    split <;> [rfl; split <;> rfl]

end Kube.Secret

namespace NodeCall

variable {c : NodeCall}

theorem judge_agree {s s' : Kube.Secret} (c : NodeCall) (h : s.Alike s') :
    Agree Kube.Secret.Alike (c.judge s) (c.judge s') := by
  unfold judge
  rw [h.checkNode]
  cases s'.checkNode c.secretName c.certificateType with
  | error e => exact .error e
  | ok checked => exact .ok h

/-! ### The plan in step with itself -/

/-- Like questions and like results, as long as the answers are alike. -/
abbrev InStep (p q : Planning (Except Error Kube.Secret)) : Prop :=
  Program.InStep (Sum.LiftRel SecretStore.Op.Alike Eq) Caller.TellsAlike
    (Agree Kube.Secret.Alike) p q

section Rules

variable {ns name : String} {s s' : Kube.Secret}

theorem inStep_get
    {next next' : Except Error (Option Kube.Secret) → Planning (Except Error Kube.Secret)}
    (failed : ∀ e, InStep (next (.error e)) (next' (.error e)))
    (absent : InStep (next (.ok none)) (next' (.ok none)))
    (found : ∀ s s', s.Alike s' → InStep (next (.ok (some s))) (next' (.ok (some s')))) :
    InStep (.ask (.inl (.get ns name)) next) (.ask (.inl (.get ns name)) next') := by
  refine .ask (.inl (.get ns name)) fun answer answer' told => ?_
  cases (told : Agree (Option.Rel Kube.Secret.Alike) answer answer') with
  | error e => exact failed e
  | ok alike =>
    cases alike with
    | none => exact absent
    | some alike => exact found _ _ alike

theorem inStep_create
    {next next' : Except Error CreateOutcome → Planning (Except Error Kube.Secret)}
    (h : s.Alike s') (failed : ∀ e, InStep (next (.error e)) (next' (.error e)))
    (created : ∀ s s', s.Alike s' → InStep (next (.ok (.created s))) (next' (.ok (.created s'))))
    (lost : InStep (next (.ok .alreadyExists)) (next' (.ok .alreadyExists))) :
    InStep (.ask (.inl (.create ns s)) next) (.ask (.inl (.create ns s')) next') := by
  refine .ask (.inl (.create ns h)) fun answer answer' told => ?_
  cases (told : Agree CreateOutcome.Alike answer answer') with
  | error e => exact failed e
  | ok alike =>
    cases alike with
    | created alike => exact created _ _ alike
    | alreadyExists => exact lost

theorem inStep_issue
    {next next' : Except Error IssuedCertificate → Planning (Except Error Kube.Secret)}
    (failed : ∀ e, InStep (next (.error e)) (next' (.error e)))
    (issued : ∀ made made', InStep (next (.ok made)) (next' (.ok made'))) :
    InStep (.ask (.inr .issue) next) (.ask (.inr .issue) next') := by
  refine .ask (.inr rfl) fun answer answer' told => ?_
  cases (told : Agree (fun _ _ => True) answer answer') with
  | error e => exact failed e
  | ok _ => exact issued _ _

theorem inStep_report {event : Log.Event} {next next' : Unit → Planning (Except Error Kube.Secret)}
    (rest : InStep (next ()) (next' ())) :
    InStep (.ask (.inr (.report event)) next) (.ask (.inr (.report event)) next') :=
  .ask (.inr rfl) fun _ _ _ => rest

end Rules

theorem inStep_planLost (c : NodeCall) : InStep c.planLost c.planLost :=
  inStep_get (fun e => .done (.error e)) (.done (.error _)) fun _ _ h => .done (c.judge_agree h)

theorem inStep_planCreating (c : NodeCall) {s s' : Kube.Secret} (h : s.Alike s') :
    InStep (c.planCreating s) (c.planCreating s') :=
  inStep_create h (fun e => .done (.error e)) (fun _ _ h => inStep_report (.done (.ok h)))
    (inStep_report c.inStep_planLost)

theorem inStep_planAbsent (c : NodeCall) : InStep c.planAbsent c.planAbsent := by
  unfold planAbsent
  cases ownerReference c.owner c.secretName with
  | error e => exact .done (.error e)
  | ok reference =>
    exact inStep_issue (fun e => .done (.error e)) fun made made' =>
      c.inStep_planCreating (Kube.Secret.alike_ofNode ..)

theorem inStep_plan (c : NodeCall) : InStep c.plan c.plan := by
  unfold plan
  cases SecretName.checkType c.certificateType with
  | error e => exact .done (.error e)
  | ok valid =>
    exact inStep_get (fun e => .done (.error e)) c.inStep_planAbsent
      fun _ _ h => inStep_report (.done (c.judge_agree h))

/-! ### Two runs -/

/-- Alike steps. -/
abbrev AlikeStep : Exchange (SecretStore.sum Caller) → Exchange (SecretStore.sum Caller) → Prop :=
  Program.Matched (Sum.LiftRel SecretStore.Op.Alike Eq) Caller.TellsAlike

/-- Alike exchanges with a store. -/
abbrev AlikeCall : Exchange SecretStore → Exchange SecretStore → Prop :=
  Program.Matched SecretStore.Op.Alike SecretStore.TellsAlike

/-- The call with another way to issue. -/
def withIssue (c : NodeCall) (issue : ExceptT Error (Program Surroundings) IssuedCertificate) :
    NodeCall :=
  { c with issue }

/-- The plan is that of the call, however it issues. -/
theorem plan_withIssue (c : NodeCall)
    (issue : ExceptT Error (Program Surroundings) IssuedCertificate) :
    (c.withIssue issue).plan = c.plan := rfl

/-- After it had read that there is no secret, the call ran `issue`, which asked what is in `during`
and came to `made`. -/
def IssuesBy (c : NodeCall) (t : Trace (SecretStore.sum Surroundings)) (during : Trace Surroundings)
    (made : Except Error IssuedCertificate) : Prop :=
  (∃ after, t = [(⟨.get c.id.ns c.secretName, .ok none⟩ : Exchange SecretStore).left] ++
    during.map .right ++ after) ∧ c.issue.Leads during (.done made)

variable {u u' : Trace (SecretStore.sum Caller)} {t t' : Trace (SecretStore.sum Surroundings)}
  {r r' : Except Error Kube.Secret}

/-- A run that issues, carried out. -/
theorem exists_issuing {made : Except Error IssuedCertificate}
    (h : Program.Carried c.carryOut (c.read (.ok none) :: issued made :: u) t) :
    ∃ during rest, t = [(⟨.get c.id.ns c.secretName, .ok none⟩ : Exchange SecretStore).left] ++
      during.map .right ++ rest ∧ c.issue.Leads during (.done made) ∧
      Program.Carried c.carryOut u rest := by
  cases h with
  | @cons _ _ t₁ _ hread h =>
  cases h with
  | cons hissue hrest =>
    obtain ⟨during, rfl, hrun⟩ :=
      Program.Leads.exists_of_right (σ := SecretStore) (p := c.issue) hissue
    obtain rfl : t₁ = [_] := Program.leads_perform_left_iff.1 hread
    exact ⟨during, _, (List.append_assoc _ _ _).symm, hrun, hrest⟩

/-- Before a certificate is issued nothing happens but that no secret is read. -/
theorem before_issue {before after : Trace (SecretStore.sum Caller)}
    {made : Except Error IssuedCertificate}
    (h : c.plan.Leads (before ++ issued made :: after) (.done r)) :
    before = [c.read (.ok none)] := by
  cases c.along_plan.asked h with
  | issue owned absent => exact absent

theorem left_alike (h : List.Forall₂ AlikeStep u u') : List.Forall₂ AlikeCall u.left u'.left := by
  induction h with
  | nil => exact .nil
  | @cons e e' _ _ hstep _ ih =>
    obtain ⟨op, answer⟩ := e
    obtain ⟨op', answer'⟩ := e'
    obtain ⟨hop, told⟩ := hstep
    cases hop with
    | inl hop => exact .cons ⟨hop, told⟩ ih
    | inr hop => exact ih

/-- The place of an exchange with the store among those of a run. -/
theorem getElem?_left (before after : Trace (SecretStore.sum Caller)) (e : Exchange SecretStore) :
    (Trace.left (before ++ e.left :: after))[(Trace.left before).length]? = some e := by
  rw [Trace.left_append, List.getElem?_append_right (Nat.le_refl _), Nat.sub_self]
  rfl

/-- A run that issues tells what `issue` asked and came to. -/
theorem exists_issuesBy {before after : Trace (SecretStore.sum Caller)}
    {made : Except Error IssuedCertificate}
    (hplan : c.plan.Leads (before ++ issued made :: after) (.done r))
    (hcarried : Program.Carried c.carryOut (before ++ issued made :: after) t) :
    ∃ during, c.IssuesBy t during made := by
  obtain rfl := before_issue hplan
  obtain ⟨during, rest, ht, hissue, -⟩ := exists_issuing hcarried
  exact ⟨during, ⟨rest, ht⟩, hissue⟩

theorem exists_issued {e : Exchange (SecretStore.sum Caller)} (h : isIssue e = true) :
    ∃ made, e = issued made := by
  obtain ⟨op | op, answer⟩ := e
  · cases h
  · cases op with
    | issue => exact ⟨answer, rfl⟩
    | report event => cases h

theorem exists_issued_of_alike {e : Exchange (SecretStore.sum Caller)}
    {made : Except Error IssuedCertificate} (h : AlikeStep (issued made) e) :
    ∃ made', e = issued made' := by
  obtain ⟨op, answer⟩ := e
  cases h.1 with
  | inr hop =>
    cases hop
    exact ⟨answer, rfl⟩

/-- One step that is no issuing reports the same in both runs. -/
theorem events_carryOut {issue : ExceptT Error (Program Surroundings) IssuedCertificate}
    {e e' : Exchange (SecretStore.sum Caller)} (hstep : AlikeStep e e') (hno : isIssue e = false)
    (h : (c.carryOut e.op).Leads t (.done e.answer))
    (h' : ((c.withIssue issue).carryOut e'.op).Leads t' (.done e'.answer)) :
    t.right.events = t'.right.events := by
  obtain ⟨op, answer⟩ := e
  obtain ⟨op', answer'⟩ := e'
  obtain ⟨hop, -⟩ := hstep
  cases hop with
  | inl hop =>
    rw [Program.leads_perform_left_iff.1 h, Program.leads_perform_left_iff.1 h']
    rfl
  | @inr op op' hop =>
    cases hop
    cases op with
    | issue => cases hno
    | report event =>
      cases h with
      | ask h =>
      cases h' with
      | ask h' =>
        cases h
        cases h'
        rfl

/-- So do steps without issuing. -/
theorem events_carried {issue : ExceptT Error (Program Surroundings) IssuedCertificate}
    (hsteps : List.Forall₂ AlikeStep u u') (hno : ∀ e ∈ u, isIssue e = false)
    (h : Program.Carried c.carryOut u t) (h' : Program.Carried (c.withIssue issue).carryOut u' t') :
    t.right.events = t'.right.events := by
  induction hsteps generalizing t t' with
  | nil =>
    cases h
    cases h'
    rfl
  | cons hstep _ ih =>
    rw [List.forall_mem_cons] at hno
    cases h with
    | cons first rest =>
    cases h' with
    | cons first' rest' =>
      rw [Trace.right_append, Trace.right_append, Trace.events_append, Trace.events_append,
        events_carryOut hstep hno.1 first first', ih hno.2 rest rest']

/-- After a certificate is issued no other is. -/
theorem no_issue_after {before after : Trace (SecretStore.sum Caller)}
    {made : Except Error IssuedCertificate}
    (h : c.plan.Leads (before ++ issued made :: after) (.done r)) :
    ∀ e ∈ after, isIssue e = false := by
  intro e he
  by_contra hissue
  obtain ⟨made', rfl⟩ := exists_issued (e := e) (by simpa using hissue)
  obtain ⟨between, rest, rfl⟩ := List.append_of_mem he
  obtain rfl := before_issue h
  have later : c.read (.ok none) :: issued made :: between = [c.read (.ok none)] := before_issue h
  simp at later

section Runs

variable {issue : ExceptT Error (Program Surroundings) IssuedCertificate}
  (hplan : c.plan.Leads u (.done r)) (hcarried : Program.Carried c.carryOut u t)
  (hplan' : c.plan.Leads u' (.done r'))
  (hcarried' : Program.Carried (c.withIssue issue).carryOut u' t')

include hplan hplan' hcarried hcarried'

/-- Two runs of the plan that are answered alike by the store, and issue alike. -/
theorem alike_steps
    (hstore : ∀ (i : Nat) (e e' : Exchange SecretStore), t.left[i]? = some e →
      t'.left[i]? = some e' → SecretStore.TellsAlike e e')
    (hissue : ∀ during made during' made', c.IssuesBy t during made →
      (c.withIssue issue).IssuesBy t' during' made' → Agree (fun _ _ => True) made made') :
    List.Forall₂ AlikeStep u u' ∧ Agree Kube.Secret.Alike r r' := by
  refine c.inStep_plan.runs hplan hplan' ?_
  rintro before ⟨op, answer⟩ after before' ⟨op', answer'⟩ after' rfl rfl hbefore hop
  cases hop with
  | inl hop =>
    refine hstore (Trace.left before).length ⟨_, answer⟩ ⟨_, answer'⟩ ?_ ?_
    · rw [left_of_carried hcarried]
      exact getElem?_left before after ⟨_, answer⟩
    · rw [left_of_carried hcarried', (left_alike hbefore).length_eq]
      exact getElem?_left before' after' ⟨_, answer'⟩
  | @inr op op' hop =>
    cases hop
    cases op with
    | issue =>
      obtain ⟨during, hmade⟩ := exists_issuesBy hplan hcarried
      obtain ⟨during', hmade'⟩ := exists_issuesBy (c := c.withIssue issue) hplan' hcarried'
      exact hissue during answer during' answer' hmade hmade'
    | report event => trivial

/-- If nothing else is reported while a certificate is issued, nothing else is reported at all. -/
theorem events_alike (hsteps : List.Forall₂ AlikeStep u u')
    (hevents : ∀ during made during' made', c.IssuesBy t during made →
      (c.withIssue issue).IssuesBy t' during' made' → during.events = during'.events) :
    t.right.events = t'.right.events := by
  by_cases hno : ∀ e ∈ u, isIssue e = false
  · exact events_carried hsteps hno hcarried hcarried'
  -- both runs read that there is no secret, issue, and go on without issuing
  · obtain ⟨e, he, hissue⟩ : ∃ e ∈ u, isIssue e = true := by simpa using hno
    obtain ⟨made, rfl⟩ := exists_issued hissue
    obtain ⟨before, after, rfl⟩ := List.append_of_mem he
    obtain rfl := before_issue hplan
    cases hsteps with
    | @cons _ e₁ _ _ _ hsteps =>
    cases hsteps with
    | @cons _ e₂ _ _ hissued hafter =>
    obtain ⟨made', rfl⟩ := exists_issued_of_alike hissued
    obtain rfl : e₁ = c.read (.ok none) :=
      List.singleton_inj.1 (show [e₁] = [c.read (.ok none)] from before_issue hplan')
    obtain ⟨during, rest, rfl, hrun, hrest⟩ := exists_issuing hcarried
    obtain ⟨during', rest', rfl, hrun', hrest'⟩ := exists_issuing (c := c.withIssue issue) hcarried'
    have hduring := hevents during made during' made' ⟨⟨rest, rfl⟩, hrun⟩ ⟨⟨rest', rfl⟩, hrun'⟩
    have hrests := events_carried hafter (no_issue_after hplan) hrest hrest'
    simp only [Trace.right_append, Trace.right_map_right, Trace.events_append, hduring, hrests]
    rfl

end Runs

/-- Two calls that differ in how they issue, over stores that answer alike: what they ask, how they
end, and what they report is alike. -/
theorem alike_of_alike_answers (c : NodeCall)
    (issue : ExceptT Error (Program Surroundings) IssuedCertificate)
    (ht : c.program.Leads t (.done r)) (ht' : (c.withIssue issue).program.Leads t' (.done r'))
    (hstore : ∀ (i : Nat) (e e' : Exchange SecretStore), t.left[i]? = some e →
      t'.left[i]? = some e' → SecretStore.TellsAlike e e')
    (hissue : ∀ during made during' made', c.IssuesBy t during made →
      (c.withIssue issue).IssuesBy t' during' made' → Agree (fun _ _ => True) made made') :
    List.Forall₂ AlikeCall t.left t'.left ∧ Agree Kube.Secret.Alike r r' ∧
      (∃ u u', Program.Carried c.carryOut u t ∧ Program.Carried (c.withIssue issue).carryOut u' t' ∧
        List.Forall₂ AlikeStep u u') ∧
      ((∀ during made during' made', c.IssuesBy t during made →
        (c.withIssue issue).IssuesBy t' during' made' → during.events = during'.events) →
        t.right.events = t'.right.events) := by
  obtain ⟨u, hleft, hcarried, hplan⟩ := exists_steps ht
  obtain ⟨u', hleft', hcarried', hplan'⟩ := exists_steps ht'
  rw [plan_withIssue] at hplan'
  obtain ⟨hsteps, hends⟩ := alike_steps hplan hcarried hplan' hcarried' hstore hissue
  have hcalls := left_alike hsteps
  rw [← hleft, ← hleft'] at hcalls
  exact ⟨hcalls, hends, ⟨u, u', hcarried, hcarried', hsteps⟩,
    events_alike hplan hcarried hplan' hcarried' hsteps⟩

/-- The reference to the owner of the secret of a prepared call. -/
def preparedReference (podName : String) : Kube.OwnerReference where
  apiVersion := Kube.apiVersion
  kind := "Pod"
  name := podName
  uid := "uid-1"
  controller := some true

/-- What a prepared call exchanges that finds no secret and issues at once. -/
def preparedTrace (podName : String) (made : IssuedCertificate) :
    Trace (SecretStore.sum Surroundings) :=
  let c := prepared podName
  let secret := c.secret (preparedReference podName) made
  [⟨.inl (.get c.id.ns c.secretName), .ok none⟩,
    ⟨.inl (.create c.id.ns secret), .ok (.created secret)⟩, ⟨.inr (.report c.createdEvent), ()⟩]

theorem leads_preparedTrace (podName : String) (made : IssuedCertificate) :
    ((prepared podName).withIssue (pure made)).program.Leads (preparedTrace podName made)
      (.done (.ok ((prepared podName).secret (preparedReference podName) made))) :=
  Program.leads_check (show SecretName.checkType "elasticsearch.all" = .ok () from rfl) <|
    Program.leads_get none <| Program.leads_check rfl <|
      Program.leads_aside (.refl _) <| Program.leads_create _ <| Program.leads_report <| .refl _

/-- Two prepared calls exchange alike with a store that answers what is created. -/
theorem tellsAlike_preparedTrace (podName : String) (made made' : IssuedCertificate) (i : Nat)
    (e e' : Exchange SecretStore) (h : (preparedTrace podName made).left[i]? = some e)
    (h' : (preparedTrace podName made').left[i]? = some e') : SecretStore.TellsAlike e e' := by
  match i with
  | 0 =>
    cases h
    cases h'
    exact .ok .none
  | 1 =>
    cases h
    cases h'
    exact .ok (.created (Kube.Secret.alike_ofNode ..))
  | _ + 2 => cases h

/-- Two keys for one pod. -/
theorem alike_of_alike_answers_two_keys :
    ∃ t t' s s', (prepared "data-0").program.Leads t (.done (.ok s)) ∧
      ((prepared "data-0").withIssue (pure ⟨"another key", "another chain"⟩)).program.Leads t'
        (.done (.ok s')) ∧
      s.octets? Entry.nodeKey ≠ s'.octets? Entry.nodeKey ∧
      List.Forall₂ AlikeCall t.left t'.left ∧ s.Alike s' ∧ t.right.events = t'.right.events := by
  let made : IssuedCertificate := ⟨"key of data-0", "chain of data-0"⟩
  let made' : IssuedCertificate := ⟨"another key", "another chain"⟩
  have ran : ∀ {during : Trace Surroundings} {r : Except Error IssuedCertificate}
      {made : IssuedCertificate},
      Program.Leads (pure made : ExceptT Error (Program Surroundings) IssuedCertificate) during
        (.done r) → during = [] ∧ r = .ok made := by
    rintro during r made ⟨⟩
    exact ⟨rfl, rfl⟩
  obtain ⟨hcalls, hends, -, hevents⟩ := alike_of_alike_answers (prepared "data-0") (pure made')
    (leads_preparedTrace "data-0" made) (leads_preparedTrace "data-0" made')
    (tellsAlike_preparedTrace "data-0" made made') fun during r during' r' h h' => by
      obtain ⟨-, rfl⟩ := ran h.2
      obtain ⟨-, rfl⟩ := ran h'.2
      exact .ok trivial
  refine ⟨_, _, _, _, leads_preparedTrace "data-0" made, leads_preparedTrace "data-0" made', ?_,
    hcalls, ?_, hevents fun during r during' r' h h' => ?_⟩
  · rw [secret, secret, Kube.Secret.nodeKey_ofNode, Kube.Secret.nodeKey_ofNode]
    decide
  · cases hends with
    | ok alike => exact alike
  · rw [(ran h.2).1, (ran h'.2).1]

end NodeCall

end NodePki
