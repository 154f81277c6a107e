import Mathlib.Data.List.Induction
import NodePki.Store.Memory
import NodePki.Proofs.Program.Interleaving

/-!
# Histories of a store in memory

What exchanges with a store in memory, in any number and of any kind, say about the store after
them. A secret that is kept stays (`grows_of_happens`), so an answer remains true in so far as it
says that there is a secret (`Shows`). The secrets that were answered as created are all that the
store gains (`entries_of_happens`) and are counted by it (`creates_of_happens`), and of one name
there is one, the one that is kept, or none if there was a secret before (`created_at`).
-/

namespace NodePki

/-- Whether a secret is the one of a name in a namespace, by its own metadata. -/
def Kube.Secret.isAt (s : Kube.Secret) (ns name : String) : Bool :=
  s.metadata.ns = some ns && s.metadata.name = some name

/-- Where a secret is kept, by its own metadata. -/
def Kube.Secret.place (s : Kube.Secret) : String × String :=
  (s.metadata.ns.getD "", s.metadata.name.getD "")

theorem Kube.Secret.place_eq_of_isAt {s : Kube.Secret} {ns name : String} (h : s.isAt ns name) :
    s.place = (ns, name) := by
  simp only [isAt, Bool.and_eq_true, decide_eq_true_eq] at h
  simp [place, h]

/-- The secret that an exchange answers as created. -/
def Exchange.created? {τ : Signature} : Exchange (SecretStore.sum τ) → Option Kube.Secret
  | ⟨.inl (.create _ _), .ok (.created s)⟩ => some s
  | _ => none

/-- The secrets that were answered as created. -/
def Trace.created {τ : Signature} (t : Trace (SecretStore.sum τ)) : List Kube.Secret :=
  t.filterMap Exchange.created?

namespace Trace

theorem created_cons {τ : Signature} (e : Exchange (SecretStore.sum τ))
    (t : Trace (SecretStore.sum τ)) : created (e :: t) = e.created?.toList ++ t.created := by
  cases h : e.created? with
  | none => exact List.filterMap_cons_none h
  | some s => exact List.filterMap_cons_some h

/-- What was created shows in the exchanges with the store. -/
theorem created_left {τ : Signature} (t : Trace (SecretStore.sum τ)) :
    created ((left t).map (Exchange.left : _ → Exchange (SecretStore.sum τ))) = t.created := by
  induction t with
  | nil => rfl
  | cons e t ih =>
    rcases e with ⟨op | op, answer⟩
    · have hleft : left (⟨.inl op, answer⟩ :: t) = ⟨op, answer⟩ :: left t := rfl
      rw [hleft, List.map_cons, created_cons, created_cons, ih]
      rfl
    · have hleft : left (⟨.inr op, answer⟩ :: t) = left t := rfl
      rw [hleft, created_cons, ih]
      rfl

theorem created_of_left {τ : Signature} {t : Trace (SecretStore.sum τ)} {l : Trace SecretStore}
    (h : t.left = l) :
    t.created = created (l.map (Exchange.left : _ → Exchange (SecretStore.sum τ))) :=
  h ▸ (created_left t).symm

theorem created_append {τ : Signature} (t u : Trace (SecretStore.sum τ)) :
    created (t ++ u) = created t ++ created u :=
  List.filterMap_append

theorem created_singleton {τ : Signature} (e : Exchange (SecretStore.sum τ)) :
    created [e] = e.created?.toList := by
  rw [created_cons]
  exact List.append_nil _

/-- If whenever something is created nothing was before, then one thing is created at most. -/
theorem length_created_le {τ : Signature} {t : Trace (SecretStore.sum τ)}
    (h : ∀ u e v s, t = u ++ e :: v → e.created? = some s → created u = []) :
    (created t).length ≤ 1 := by
  induction t using List.reverseRecOn with
  | nil => exact Nat.zero_le 1
  | append_singleton t e ih =>
    rw [created_append, created_singleton, List.length_append]
    cases he : e.created? with
    | none => exact ih fun u e' v s huv => h u e' (v ++ [e]) s (by simp [huv])
    | some s => rw [h t e [] s rfl he]; exact Nat.le_refl 1

end Trace

namespace MemoryStore

variable {τ : Signature} {m m' : MemoryStore} {e e' : Exchange (SecretStore.sum τ)}
  {t : Trace (SecretStore.sum τ)} {ns name : String} {s : Kube.Secret}

/-- How a store in memory replies; what is not asked of it may be answered anyhow. -/
inductive Replies : MemoryStore → Exchange (SecretStore.sum τ) → MemoryStore → Prop
  | store (m : MemoryStore) (op : SecretStore.Op) :
      Replies m ⟨.inl op, (m.answer op).1⟩ (m.answer op).2
  | other (m : MemoryStore) (op : τ.Op) (answer : τ.Answer op) : Replies m ⟨.inr op, answer⟩ m

theorem Replies.store_iff {op : SecretStore.Op} {answer : SecretStore.Answer op} :
    m.Replies (τ := τ) ⟨.inl op, answer⟩ m' ↔
      answer = (m.answer op).1 ∧ m' = (m.answer op).2 := by
  constructor
  · rintro ⟨⟩
    exact ⟨rfl, rfl⟩
  · rintro ⟨rfl, rfl⟩
    exact .store m op

theorem Replies.other_iff {op : τ.Op} {answer : τ.Answer op} :
    m.Replies ⟨.inr op, answer⟩ m' ↔ m' = m := by
  constructor
  · rintro ⟨⟩
    rfl
  · rintro rfl
    exact .other _ op answer

theorem Replies.get {r : Option Kube.Secret} (h : m.get? ns name = r) :
    m.Replies (τ := τ) ⟨.inl (.get ns name), .ok r⟩ m :=
  h ▸ .store m (.get ns name)

/-- A name is answered to be free if it is. -/
theorem Replies.absent (h : m.Replies (τ := τ) ⟨.inl (.get ns name), .ok none⟩ m') :
    m.get? ns name = none := by
  generalize he : (⟨.inl (.get ns name), .ok none⟩ : Exchange (SecretStore.sum τ)) = e at h
  cases h with
  | other => cases he
  | store op =>
    cases op with
    | create => cases he
    | get ns' name' =>
      simp only [answer, Exchange.mk.injEq, Sum.inl.injEq, SecretStore.Op.get.injEq] at he
      obtain ⟨⟨rfl, rfl⟩, he⟩ := he
      simpa using (eq_of_heq he).symm

theorem Replies.created {secret : Kube.Secret} (hn : secret.metadata.name = some name)
    (h : m.get? ns name = none) :
    m.Replies (τ := τ) ⟨.inl (.create ns secret), .ok (.created (withNamespace secret ns))⟩
      ⟨m.secrets.insert (ns, name) (withNamespace secret ns), m.creates + 1⟩ := by
  have hc : m.secrets.contains (ns, name) = false := congrArg Option.isSome h
  have := Replies.store (τ := τ) m (.create ns secret)
  simpa [answer, create, nameOf, hn, hc] using this

/-- What is not asked of the store leaves it as it is. -/
theorem Replies.aside (m : MemoryStore) (t : Trace τ) :
    Happens Replies m (t.map (Exchange.right : _ → Exchange (SecretStore.sum τ))) m := by
  induction t with
  | nil => exact .nil m
  | cons e t ih => exact .cons (.other m e.op e.answer) ih

/-- What an exchange says about the store for good: which secrets it keeps. -/
inductive Shows (m : MemoryStore) : Exchange (SecretStore.sum τ) → Prop
  | absent (ns name : String) : Shows m ⟨.inl (.get ns name), .ok none⟩
  | found {ns name : String} {s : Kube.Secret} (kept : m.get? ns name = some s) :
      Shows m ⟨.inl (.get ns name), .ok (some s)⟩
  | unnamed {ns : String} {secret : Kube.Secret} (unnamed : secret.metadata.name = none) :
      Shows m ⟨.inl (.create ns secret), .error (.store .unnamed)⟩
  | created {ns name : String} {secret : Kube.Secret} (named : secret.metadata.name = some name)
      (kept : m.get? ns name = some (withNamespace secret ns)) :
      Shows m ⟨.inl (.create ns secret), .ok (.created (withNamespace secret ns))⟩
  | taken {ns name : String} {secret s : Kube.Secret} (named : secret.metadata.name = some name)
      (kept : m.get? ns name = some s) : Shows m ⟨.inl (.create ns secret), .ok .alreadyExists⟩
  | other (op : τ.Op) (answer : τ.Answer op) : Shows m ⟨.inr op, answer⟩

theorem get?_insert (m : MemoryStore) (ns name ns' name' : String) (s : Kube.Secret) (n : Nat) :
    (⟨m.secrets.insert (ns, name) s, n⟩ : MemoryStore).get? ns' name' =
      if ns' = ns ∧ name' = name then some s else m.get? ns' name' := by
  simp only [get?, Dict.get?_insert, Prod.mk.injEq]

/-- The other store keeps one secret more, and is the same under all other names. -/
def Adds (m : MemoryStore) (ns name : String) (s : Kube.Secret) (m' : MemoryStore) : Prop :=
  ∀ ns' name', m'.get? ns' name' = if ns' = ns ∧ name' = name then some s else m.get? ns' name'

theorem Adds.get?_self (h : m.Adds ns name s m') : m'.get? ns name = some s :=
  (h ns name).trans (if_pos ⟨rfl, rfl⟩)

theorem Adds.get?_of_ne {ns' name' : String} (h : m.Adds ns name s m') (hne : name' ≠ name) :
    m'.get? ns' name' = m.get? ns' name' :=
  (h ns' name').trans (if_neg fun hsame => hne hsame.2)

/-- An exchange leaves the store as it is and says what it keeps, or the store keeps one secret
more. -/
theorem Replies.cases (h : Replies m e m') :
    (m' = m ∧ e.created? = none ∧ m.Shows e) ∨
      ∃ ns secret name, e = ⟨.inl (.create ns secret), .ok (.created (withNamespace secret ns))⟩ ∧
        secret.metadata.name = some name ∧ m.get? ns name = none ∧
        m' = ⟨m.secrets.insert (ns, name) (withNamespace secret ns), m.creates + 1⟩ := by
  cases h with
  | other op answer => exact .inl ⟨rfl, rfl, .other op answer⟩
  | store op =>
    cases op with
    | get ns name =>
      refine .inl ⟨rfl, rfl, ?_⟩
      simp only [answer]
      cases hg : m.get? ns name with
      | none => exact .absent ns name
      | some s => exact .found hg
    | create ns secret =>
      simp only [answer, create, nameOf]
      cases hn : secret.metadata.name with
      | none => exact .inl ⟨rfl, rfl, .unnamed hn⟩
      | some name =>
        cases hg : m.get? ns name with
        | none =>
          have hc : m.secrets.contains (ns, name) = false := congrArg Option.isSome hg
          exact .inr ⟨ns, secret, name, by simp [hc], hn, hg, by simp [hc]⟩
        | some s =>
          have hc : m.secrets.contains (ns, name) = true := congrArg Option.isSome hg
          simp only [hc, if_true]
          exact .inl ⟨trivial, rfl, .taken hn hg⟩

/-- A kept secret stays. -/
theorem Replies.keeps (h : Replies m e m') (hs : m.get? ns name = some s) :
    m'.get? ns name = some s := by
  rcases h.cases with ⟨rfl, -⟩ | ⟨ns', secret, name', -, -, hnone, rfl⟩
  · exact hs
  · rw [get?_insert, if_neg]
    · exact hs
    · rintro ⟨rfl, rfl⟩
      rw [hnone] at hs
      cases hs

theorem Replies.shows (h : Replies m e m') : m'.Shows e := by
  rcases h.cases with ⟨rfl, -, hs⟩ | ⟨ns, secret, name, rfl, hn, -, rfl⟩
  · exact hs
  · exact .created hn (by simp [get?_insert])

theorem Replies.keeps_shows (h : Replies m e m') (hs : m.Shows e') : m'.Shows e' := by
  cases hs with
  | absent => exact .absent _ _
  | found kept => exact .found (h.keeps kept)
  | unnamed hn => exact .unnamed hn
  | created hn kept => exact .created hn (h.keeps kept)
  | taken hn kept => exact .taken hn (h.keeps kept)
  | other => exact .other _ _

/-- A kept secret stays. -/
theorem grows_of_happens (h : Happens Replies m t m') (hs : m.get? ns name = some s) :
    m'.get? ns name = some s :=
  h.keeps (P := fun m => m.get? ns name = some s) Replies.keeps hs

/-- All that was answered about kept secrets holds of the store at the end. -/
theorem shows_of_happens (h : Happens Replies m t m') : ∀ e ∈ t, m'.Shows e :=
  h.shows Replies.shows Replies.keeps_shows

theorem shows_of_sublist {u : Trace (SecretStore.sum τ)} (h : Happens Replies m t m')
    (hu : u.Sublist t) : ∀ e ∈ u.left, m'.Shows (e.left : Exchange (SecretStore.sum τ)) :=
  fun _ he => shows_of_happens h _ (hu.subset (Trace.mem_of_mem_left he))

/-- A name that was shown to be taken is not answered to be free later. -/
theorem not_absent_later (h : Happens Replies m t m')
    (hsub : [e, ⟨.inl (.get ns name), .ok none⟩].Sublist t) :
    ∃ m₁ : MemoryStore, m₁.Shows e ∧ m₁.get? ns name = none := by
  have hp : t.Pairwise fun e e' => ∃ m m', Shows m e ∧ Replies m e' m' :=
    h.pairwise Replies.shows Replies.keeps_shows
  obtain ⟨m₁, m₂, hshows, hrep⟩ := List.pairwise_pair.1 (hp.sublist hsub)
  exact ⟨m₁, hshows, hrep.absent⟩

/-- The store counts the secrets that were answered as created. -/
theorem creates_of_happens (h : Happens Replies m t m') :
    m'.creates = m.creates + t.created.length := by
  induction h with
  | nil => rfl
  | cons first _ ih =>
    rcases first.cases with ⟨rfl, hc, -⟩ | ⟨ns, secret, name, rfl, -, -, rfl⟩
    · rw [ih, Trace.created_cons, hc]
      rfl
    · rw [ih, Trace.created_cons, List.length_append, ← Nat.add_assoc]
      rfl

/-- What is created is kept behind what there was, and nothing else changes. -/
theorem entries_of_happens (h : Happens Replies m t m') :
    m'.secrets.entries = m.secrets.entries ++ t.created.map fun s => (s.place, s) := by
  induction h with
  | nil => simp [Trace.created]
  | @cons m _ _ _ _ first _ ih =>
    rcases first.cases with ⟨rfl, hc, -⟩ | ⟨ns, secret, name, rfl, hn, hnone, rfl⟩
    · rw [ih, Trace.created_cons, hc]
      rfl
    · have hplace : (withNamespace secret ns).place = (ns, name) := by
        simp [Kube.Secret.place, withNamespace, hn]
      have hentries := Dict.entries_insert_of_get?_eq_none (d := m.secrets) (k := (ns, name)) hnone
        (withNamespace secret ns)
      rw [ih, hentries, Trace.created_cons, List.append_assoc, ← hplace]
      rfl

/-- Where nothing is created the store stays as it is. -/
theorem eq_of_created_eq_nil (h : Happens Replies m t m') (ht : t.created = []) : m' = m := by
  have hentries := entries_of_happens h
  have hcreates := creates_of_happens h
  rw [ht] at hentries hcreates
  obtain ⟨⟨entries, hnodup⟩, creates⟩ := m
  obtain ⟨⟨entries', hnodup'⟩, creates'⟩ := m'
  simp only [List.map_nil, List.append_nil, List.length_nil, Nat.add_zero] at hentries hcreates
  subst hentries hcreates
  rfl

/-- A name with a secret is not answered to be free. -/
theorem not_absent_of_kept (h : Happens Replies m t m') (hs : m.get? ns name = some s) :
    ⟨.inl (.get ns name), .ok none⟩ ∉ t := by
  induction h with
  | nil => exact List.not_mem_nil
  | cons first _ ih =>
    rintro (_ | ⟨_, hmem⟩)
    · rw [first.absent] at hs
      cases hs
    · exact ih (first.keeps hs) hmem

/-- Of the secrets of one name none was created if there was one before, and else the one that is
kept at the end, if any. -/
theorem created_at (h : Happens Replies m t m') (ns name : String) :
    t.created.filter (·.isAt ns name) =
      if (m.get? ns name).isSome then [] else (m'.get? ns name).toList := by
  induction h with
  | nil m => cases h : m.get? ns name <;> simp [Trace.created]
  | @cons m m₁ m' e t first rest ih =>
    rcases first.cases with ⟨rfl, hc, -⟩ | ⟨ns', secret, name', rfl, hn, hnone, rfl⟩
    · rw [← ih, Trace.created_cons, hc]
      rfl
    · have hcons : Trace.created
          (⟨.inl (.create ns' secret), .ok (.created (withNamespace secret ns'))⟩ :: t) =
            withNamespace secret ns' :: t.created := Trace.created_cons _ _
      rw [hcons, List.filter_cons]
      rw [get?_insert] at ih
      by_cases hk : ns = ns' ∧ name = name'
      · obtain ⟨rfl, rfl⟩ := hk
        have hkept : m'.get? ns name = some (withNamespace secret ns) :=
          grows_of_happens rest (by simp [get?_insert])
        have hat : (withNamespace secret ns).isAt ns name := by
          simp [Kube.Secret.isAt, withNamespace, hn]
        simp only [and_self, if_true, Option.isSome_some] at ih
        rw [if_pos hat, hnone, hkept]
        exact congrArg _ ih
      · have hat : ¬ (withNamespace secret ns').isAt ns name := by
          simp only [Kube.Secret.isAt, withNamespace, hn, Bool.and_eq_true, decide_eq_true_eq,
            Option.some.injEq]
          rintro ⟨rfl, rfl⟩
          exact hk ⟨rfl, rfl⟩
        rw [if_neg hk] at ih
        rw [if_neg hat]
        exact ih

/-- What is created is created under a name without a secret. -/
theorem absent_of_created (h : Happens Replies m t m') (hs : s ∈ t.created)
    (hat : s.isAt ns name) : m.get? ns name = none := by
  have hmem : s ∈ t.created.filter (·.isAt ns name) := List.mem_filter.2 ⟨hs, hat⟩
  rw [created_at h] at hmem
  cases hm : m.get? ns name with
  | none => rfl
  | some s' =>
    rw [hm] at hmem
    cases hmem

/-- A created secret is the one that is kept under its name. -/
theorem kept_of_created (h : Happens Replies m t m') (hs : s ∈ t.created) :
    ∃ ns name secret, ⟨.inl (.create ns secret), .ok (.created s)⟩ ∈ t ∧
      secret.metadata.name = some name ∧ s = withNamespace secret ns ∧
      m'.get? ns name = some s := by
  obtain ⟨e, he, hcreated⟩ := List.mem_filterMap.1 hs
  have hshows := shows_of_happens h e he
  cases hshows with
  | created named kept => cases hcreated; exact ⟨_, _, _, he, named, rfl, kept⟩
  | _ => cases hcreated

/-- A kept secret was there before, or was created. -/
theorem created_of_kept (h : Happens Replies m t m') (hs : m'.get? ns name = some s)
    (hnone : m.get? ns name = none) : s ∈ t.created ∧ s.isAt ns name := by
  have hmem : s ∈ t.created.filter (·.isAt ns name) := by
    rw [created_at h, hnone, hs]
    exact List.mem_singleton_self s
  exact List.mem_filter.1 hmem

end MemoryStore

end NodePki
