import NodePki.Ensure
import NodePki.Proofs.Store.Basic
import NodePki.Proofs.Store.Memory
import NodePki.Proofs.Program.Interleaving

/-!
# Ensuring a secret

The one shape of both steps of a reconciliation: a secret is read, created if there is none, and
read again if the name was lost. `Ensured` says what is ensured, `Ensured.Asks` and `Ensured.Ends`
what was asked and answered before each question and each result, whatever the store answers.

Over a store in memory a success is about the secret that is kept at the end
(`Ensured.kept_of_ok`), and a failure has one of three causes (`Ensured.cause_of_error`): who loses
the name finds the winner.
-/

namespace NodePki

/-- A secret that is to be there, and what is answered about it. -/
structure Ensured (α : Type) where
  ns : String
  name : String
  /-- The errors before anything is asked. -/
  Refuses : Error → Prop
  /-- The errors between reading and creating, by the exchanges so far. -/
  Fails : Trace (SecretStore.sum Surroundings) → Error → Prop
  /-- The secrets that are created, by the exchanges so far, and what is answered for what is kept
  then. -/
  Makes : Trace (SecretStore.sum Surroundings) → Kube.Secret → (Kube.Secret → α) → Prop
  /-- What is answered for a secret that there is. -/
  judge : Kube.Secret → Except Error α
  named : ∀ {t secret f}, Makes t secret f → secret.metadata.name = some name
  /-- What is created has the namespace already that a store gives it. -/
  placed : ∀ {t secret f}, Makes t secret f → MemoryStore.withNamespace secret ns = secret
  append : ∀ {t secret f}, Makes t secret f → ∀ u, Makes (t ++ u) secret f

namespace Ensured

variable {α : Type} {E : Ensured α} {t u : Trace (SecretStore.sum Surroundings)} {a : α} {e : Error}
  {secret : Kube.Secret} {f : Kube.Secret → α}

/-- The secret is read. -/
def read (E : Ensured α) (answer : Except Error (Option Kube.Secret)) : Exchange SecretStore :=
  ⟨.get E.ns E.name, answer⟩

/-- A secret is created. -/
def create (E : Ensured α) (secret : Kube.Secret) (answer : Except Error CreateOutcome) :
    Exchange SecretStore :=
  ⟨.create E.ns secret, answer⟩

/-- What is asked, and after which exchanges. -/
inductive Asks (E : Ensured α) (t : Trace (SecretStore.sum Surroundings)) :
    (SecretStore.sum Surroundings).Op → Prop
  | read (first : t.left = []) : Asks E t (.inl (.get E.ns E.name))
  | create {secret : Kube.Secret} {f : Kube.Secret → α} (made : E.Makes t secret f)
      (absent : t.left = [E.read (.ok none)]) : Asks E t (.inl (.create E.ns secret))
  | reread {secret : Kube.Secret} {f : Kube.Secret → α} (made : E.Makes t secret f)
      (lost : t.left = [E.read (.ok none), E.create secret (.ok .alreadyExists)]) :
      Asks E t (.inl (.get E.ns E.name))
  | machine (op : Surroundings.Op) : Asks E t (.inr op)

/-- How it ends, and after which exchanges. -/
inductive Ends (E : Ensured α) (t : Trace (SecretStore.sum Surroundings)) : Except Error α → Prop
  | refused {e : Error} (refused : E.Refuses e) (unasked : t.left = []) : Ends E t (.error e)
  | unread {e : Error} (failed : t.left = [E.read (.error e)]) : Ends E t (.error e)
  | found {s : Kube.Secret} {r : Except Error α} (found : t.left = [E.read (.ok (some s))])
      (judged : E.judge s = r) : Ends E t r
  | unmade {e : Error} (failed : E.Fails t e) (absent : t.left = [E.read (.ok none)]) :
      Ends E t (.error e)
  | uncreated {secret : Kube.Secret} {f : Kube.Secret → α} {e : Error} (made : E.Makes t secret f)
      (failed : t.left = [E.read (.ok none), E.create secret (.error e)]) : Ends E t (.error e)
  | created {secret s : Kube.Secret} {f : Kube.Secret → α} (made : E.Makes t secret f)
      (created : t.left = [E.read (.ok none), E.create secret (.ok (.created s))]) :
      Ends E t (.ok (f s))
  | lostUnread {secret : Kube.Secret} {f : Kube.Secret → α} {e : Error} (made : E.Makes t secret f)
      (failed : t.left = [E.read (.ok none), E.create secret (.ok .alreadyExists),
        E.read (.error e)]) : Ends E t (.error e)
  | vanished {secret : Kube.Secret} {f : Kube.Secret → α} (made : E.Makes t secret f)
      (absent : t.left = [E.read (.ok none), E.create secret (.ok .alreadyExists),
        E.read (.ok none)]) : Ends E t (.error (.store (.unreadable E.ns E.name)))
  | lost {secret s : Kube.Secret} {f : Kube.Secret → α} {r : Except Error α}
      (made : E.Makes t secret f) (found : t.left = [E.read (.ok none),
        E.create secret (.ok .alreadyExists), E.read (.ok (some s))])
      (judged : E.judge s = r) : Ends E t r

/-- After the loss of the name the winner is read, and judged like a secret that was there. -/
theorem along_reread (made : E.Makes t secret f)
    (lost : t.left = [E.read (.ok none), E.create secret (.ok .alreadyExists)])
    {g : Kube.Secret → ExceptT Error Storing α}
    (hg : ∀ u s, E.Ends u (E.judge s) → Program.Along E.Asks E.Ends u (g s)) :
    Program.Along E.Asks E.Ends t (readWinner E.ns E.name >>= g : ExceptT Error Storing α) := by
  refine Program.along_try (Program.along_get (.reread made lost) (fun e => ?_) fun winner => ?_)
  · exact .lostUnread (E.append made _) (Trace.left_ask lost _ _)
  · cases winner with
    | none =>
      exact Program.along_throw (.vanished (E.append made _) (Trace.left_ask lost _ _))
    | some s =>
      exact Program.along_return (hg _ s (.lost (E.append made _) (Trace.left_ask lost _ _) rfl))

/-- What is asked to be created in a run is made in it. -/
theorem exists_makes_of_asked {p q : Storing (Except Error α)} {ns : String}
    {answer : Except Error CreateOutcome} (along : p.Along E.Asks E.Ends [])
    (run : p.Leads t q) (asked : ⟨.inl (.create ns secret), answer⟩ ∈ t) :
    ∃ u f, E.Makes u secret f := by
  obtain ⟨u, v, rfl⟩ := List.append_of_mem asked
  cases along.asked run with
  | create made absent => exact ⟨u, _, made⟩

/-- It succeeds with a secret that was found or created. -/
theorem Ends.told (h : E.Ends t (.ok a)) :
    (∃ s, E.judge s = .ok a ∧ E.read (.ok (some s)) ∈ t.left) ∨
      ∃ secret s f, E.Makes t secret f ∧ f s = a ∧ E.create secret (.ok (.created s)) ∈ t.left := by
  cases h with
  | found found judged => exact .inl ⟨_, judged, by simp [found]⟩
  | created made created => exact .inr ⟨_, _, _, made, rfl, by simp [created]⟩
  | lost made found judged => exact .inl ⟨_, judged, by simp [found]⟩

section Memory

variable {m m' : MemoryStore} {h : Trace (SecretStore.sum Surroundings)}

/-- A success is about the secret that is kept at the end. -/
theorem kept_of_ok (hh : Happens MemoryStore.Replies m h m') (ht : t.Sublist h)
    (hends : E.Ends t (.ok a)) :
    ∃ s, m'.get? E.ns E.name = some s ∧
      (E.judge s = .ok a ∨ ∃ f, E.Makes t s f ∧ f s = a) := by
  have hshows := MemoryStore.shows_of_sublist hh ht
  rcases hends.told with ⟨s, hjudge, hread⟩ | ⟨secret, s, f, made, hf, hcreated⟩
  · cases hshows _ hread with
    | found kept => exact ⟨s, kept, .inl hjudge⟩
  · cases hshows _ hcreated with
    | created named kept =>
      rw [E.named made] at named
      rw [← Option.some.inj named, E.placed made] at kept
      exact ⟨_, kept, .inr ⟨f, made, E.placed made ▸ hf⟩⟩

/-- What was there is not away later. -/
theorem not_vanished (hh : Happens MemoryStore.Replies m h m') (ht : t.Sublist h)
    (made : E.Makes t secret f) :
    t.left ≠ [E.read (.ok none), E.create secret (.ok .alreadyExists), E.read (.ok none)] := by
  intro hleft
  have hsub :
      [(E.create secret (.ok .alreadyExists)).left, (E.read (.ok none)).left].Sublist h := by
    refine (List.Sublist.trans ?_ (Trace.left_sublist t)).trans ht
    rw [hleft]
    exact List.sublist_cons_self _ _
  obtain ⟨m₁, hshows, habsent⟩ := MemoryStore.not_absent_later hh hsub
  cases hshows with
  | taken named kept =>
    rw [E.named made] at named
    rw [← Option.some.inj named, habsent] at kept
    cases kept

/-- A failure has a cause of its own, before anything is asked or once there was read to be nothing, or
is about the secret that is kept at the end. -/
theorem cause_of_error (hh : Happens MemoryStore.Replies m h m') (ht : t.Sublist h)
    (hends : E.Ends t (.error e)) :
    (E.Refuses e ∧ t.left = []) ∨ (E.Fails t e ∧ t.left = [E.read (.ok none)]) ∨
      ∃ s, m'.get? E.ns E.name = some s ∧ E.judge s = .error e := by
  have hshows := MemoryStore.shows_of_sublist hh ht
  cases hends with
  | refused refused unasked => exact .inl ⟨refused, unasked⟩
  | unmade failed absent => exact .inr (.inl ⟨failed, absent⟩)
  | unread failed =>
    rw [failed, List.forall_mem_cons] at hshows
    nomatch hshows.1
  | uncreated made failed =>
    rw [failed, List.forall_mem_cons, List.forall_mem_cons] at hshows
    cases hshows.2.1 with
    | unnamed unnamed => simp [E.named made] at unnamed
  | lostUnread made failed =>
    rw [failed, List.forall_mem_cons, List.forall_mem_cons, List.forall_mem_cons] at hshows
    nomatch hshows.2.2.1
  | vanished made absent => exact absurd absent (not_vanished hh ht made)
  | found found judged =>
    rw [found, List.forall_mem_cons] at hshows
    cases hshows.1 with
    | found kept => exact .inr (.inr ⟨_, kept, judged⟩)
  | lost made found judged =>
    rw [found, List.forall_mem_cons, List.forall_mem_cons, List.forall_mem_cons] at hshows
    cases hshows.2.2.1 with
    | found kept => exact .inr (.inr ⟨_, kept, judged⟩)

end Memory

section Together

variable {ι : Type} {calls : List ι} {program : ι → Storing (Except Error α)} {E : ι → Ensured α}
  {m m' : MemoryStore} {h : History (SecretStore.sum Surroundings)}
  {cs' : List (Storing (Except Error α))} {i : Nat} {c : ι}

/-- A call that is done has a program. -/
theorem exists_call (hr : Interleaving MemoryStore.Replies m (calls.map program) h m' cs')
    {r : Except Error α} (hi : cs'[i]? = some (.done r)) : ∃ c, calls[i]? = some c := by
  obtain ⟨p, hp, -⟩ := hr.exists_ends hi
  rw [List.getElem?_map, Option.map_eq_some_iff] at hp
  exact ⟨hp.choose, hp.choose_spec.1⟩

variable (along : ∀ c, (program c).Along (E c).Asks (E c).Ends [])

include along

theorem ends (hr : Interleaving MemoryStore.Replies m (calls.map program) h m' cs')
    (hc : calls[i]? = some c) {r : Except Error α} (hi : cs'[i]? = some (.done r)) :
    (E c).Ends (h.client i) r :=
  (along c).ends (hr.ends (p := program c) (by simp [hc]) hi)

/-- What is created is what a call makes, under the name of that call. -/
theorem created_by (hr : Interleaving MemoryStore.Replies m (calls.map program) h m' cs')
    (hs : secret ∈ h.all.created) :
    ∃ i c f, calls[i]? = some c ∧ (E c).Makes (h.client i) secret f ∧
      secret ∈ (h.client i).created ∧ m'.get? (E c).ns (E c).name = some secret := by
  obtain ⟨ns, name, posted, he, hname, rfl, hkept⟩ := MemoryStore.kept_of_created hr.happens hs
  obtain ⟨i, p, t, u, q, hp, htu, hq⟩ := hr.asked he
  rw [List.getElem?_map, Option.map_eq_some_iff] at hp
  obtain ⟨c, hc, rfl⟩ := hp
  have hcreated : MemoryStore.withNamespace posted ns ∈ (h.client i).created :=
    List.mem_filterMap.2 ⟨_, htu ▸ List.mem_append_right t List.mem_cons_self, rfl⟩
  cases (along c).asked hq with
  | create made absent =>
    rw [(E c).named made] at hname
    rw [← Option.some.inj hname, (E c).placed made] at hkept
    rw [(E c).placed made] at hcreated ⊢
    exact ⟨i, c, _, hc, htu ▸ (E c).append made _, hcreated, hkept⟩

/-- A kept secret that was not there is what a call made that is for its name. -/
theorem made_of_kept (hr : Interleaving MemoryStore.Replies m (calls.map program) h m' cs')
    {ns name : String} (hs : m'.get? ns name = some secret) (hnone : m.get? ns name = none) :
    ∃ i c f, calls[i]? = some c ∧ (E c).Makes (h.client i) secret f ∧
      secret ∈ (h.client i).created ∧ (E c).ns = ns ∧ (E c).name = name := by
  obtain ⟨hcreated, hat⟩ := MemoryStore.created_of_kept hr.happens hs hnone
  obtain ⟨i, c, f, hc, made, hown, -⟩ := created_by along hr hcreated
  have hns : secret.metadata.ns = some (E c).ns := by
    rw [← (E c).placed made]
    rfl
  simp only [Kube.Secret.isAt, hns, (E c).named made, Option.some.injEq, Bool.and_eq_true,
    decide_eq_true_eq] at hat
  exact ⟨i, c, f, hc, made, hown, hat.1, hat.2⟩

end Together

end Ensured

end NodePki
