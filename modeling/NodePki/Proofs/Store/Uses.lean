import NodePki.Proofs.Store.Memory

/-!
# Stores in memory by what was done with them

A store in memory that began empty is all that was done with it (`isDescribedBy_after`). Two ways of
writing meet in it: an insertion replaces what there is, a creation does nothing if there is something.
So under each name there is the secret of the last insertion, or of the one creation that was
answered so if no insertion came after it. One use of a store does one of six things (`Happening`),
each keeps the description (`IsDescribedBy.use`), and so does every sequence of uses.
-/

namespace NodePki.MemoryStore

/-- What may be done with a store in memory: a secret is put in past `create`, or one of the questions
is asked that any store answers. -/
inductive Use
  | insert (ns : String) (secret : Kube.Secret)
  | create (ns : String) (secret : Kube.Secret)
  | get (ns name : String)
  deriving DecidableEq, Repr

/-- What is answered. -/
inductive Reply
  | inserted (result : Except Error Unit)
  | created (result : Except Error CreateOutcome)
  | got (result : Except Error (Option Kube.Secret))
  deriving DecidableEq, Repr

/-- The answer to a use, and the store after it. A refused insertion leaves the store as it is. -/
def use (m : MemoryStore) : Use → Reply × MemoryStore
  | .insert ns secret =>
    match m.insert ns secret with
    | .ok m' => (.inserted (.ok ()), m')
    | .error e => (.inserted (.error e), m)
  | .create ns secret => (.created (m.answer (.create ns secret)).1, (m.answer (.create ns secret)).2)
  | .get ns name => (.got (m.answer (.get ns name)).1, (m.answer (.get ns name)).2)

/-- The store after some uses. -/
def after (m : MemoryStore) (uses : List Use) : MemoryStore := uses.foldl (fun m u => (m.use u).2) m

/-- Some uses with their answers. -/
def log (m : MemoryStore) : List Use → List (Use × Reply)
  | [] => []
  | u :: uses => (u, (m.use u).1) :: log (m.use u).2 uses

theorem after_append (m : MemoryStore) (uses more : List Use) :
    m.after (uses ++ more) = (m.after uses).after more :=
  List.foldl_append

theorem log_append (m : MemoryStore) (uses more : List Use) :
    m.log (uses ++ more) = m.log uses ++ (m.after uses).log more := by
  induction uses generalizing m with
  | nil => rfl
  | cons u uses ih =>
    rw [List.cons_append, log, log, ih]
    rfl

/-! ### One use -/

/-- What a use may do, all that it answers and all that it changes. -/
inductive Happening (m : MemoryStore) : Use → Reply → MemoryStore → Prop
  | inserts {ns name : String} {secret : Kube.Secret} (named : secret.metadata.name = some name) :
      Happening m (.insert ns secret) (.inserted (.ok ()))
        ⟨m.secrets.insert (ns, name) (withNamespace secret ns), m.creates⟩
  | insertsNone {ns : String} {secret : Kube.Secret} (unnamed : secret.metadata.name = none) :
      Happening m (.insert ns secret) (.inserted (.error (.store .unnamed))) m
  | creates {ns name : String} {secret : Kube.Secret} (named : secret.metadata.name = some name)
      (absent : m.get? ns name = none) :
      Happening m (.create ns secret) (.created (.ok (.created (withNamespace secret ns))))
        ⟨m.secrets.insert (ns, name) (withNamespace secret ns), m.creates + 1⟩
  | createsNone {ns : String} {secret : Kube.Secret} (unnamed : secret.metadata.name = none) :
      Happening m (.create ns secret) (.created (.error (.store .unnamed))) m
  | taken {ns name : String} {secret : Kube.Secret} (named : secret.metadata.name = some name)
      (kept : (m.get? ns name).isSome) :
      Happening m (.create ns secret) (.created (.ok .alreadyExists)) m
  | reads (ns name : String) : Happening m (.get ns name) (.got (.ok (m.get? ns name))) m

section Equations

variable {m : MemoryStore} {ns name : String} {secret : Kube.Secret}

theorem use_of_unnamed (unnamed : secret.metadata.name = none) :
    m.use (.insert ns secret) = (.inserted (.error (.store .unnamed)), m) ∧
      m.use (.create ns secret) = (.created (.error (.store .unnamed)), m) := by
  simp [use, insert, answer, create, nameOf, unnamed, bind, Except.bind]

variable (named : secret.metadata.name = some name)

include named

theorem use_insert : m.use (.insert ns secret) = (.inserted (.ok ()),
    ⟨m.secrets.insert (ns, name) (withNamespace secret ns), m.creates⟩) := by
  simp [use, insert, nameOf, named, bind, Except.bind, pure, Except.pure]

theorem use_create_of_absent (absent : m.get? ns name = none) : m.use (.create ns secret) =
    (.created (.ok (.created (withNamespace secret ns))),
      ⟨m.secrets.insert (ns, name) (withNamespace secret ns), m.creates + 1⟩) := by
  have hfree : m.secrets.contains (ns, name) = false := congrArg Option.isSome absent
  simp [use, answer, create, nameOf, named, hfree]

theorem use_create_of_kept (kept : (m.get? ns name).isSome) :
    m.use (.create ns secret) = (.created (.ok .alreadyExists), m) := by
  have htaken : m.secrets.contains (ns, name) = true := kept
  simp [use, answer, create, nameOf, named, htaken]

end Equations

theorem happening_use (m : MemoryStore) (u : Use) : m.Happening u (m.use u).1 (m.use u).2 := by
  cases u with
  | get ns name => exact .reads ns name
  | insert ns secret =>
    cases named : secret.metadata.name with
    | none =>
      rw [(use_of_unnamed named).1]
      exact .insertsNone named
    | some name =>
      rw [use_insert named]
      exact .inserts named
  | create ns secret =>
    cases named : secret.metadata.name with
    | none =>
      rw [(use_of_unnamed named).2]
      exact .createsNone named
    | some name =>
      cases kept : m.get? ns name with
      | none =>
        rw [use_create_of_absent named kept]
        exact .creates named kept
      | some s =>
        have kept : (m.get? ns name).isSome := by rw [kept]; rfl
        rw [use_create_of_kept named kept]
        exact .taken named kept

/-- A creation is refused exactly if the name is taken. -/
theorem taken_iff (m : MemoryStore) (ns : String) (secret : Kube.Secret) :
    (m.use (.create ns secret)).1 = .created (.ok .alreadyExists) ↔
      ∃ name, secret.metadata.name = some name ∧ (m.get? ns name).isSome := by
  have happening := m.happening_use (.create ns secret)
  generalize (m.use (.create ns secret)).1 = reply, (m.use (.create ns secret)).2 = m' at happening ⊢
  cases happening with
  | creates named absent => simp [named, absent]
  | createsNone unnamed => simp [unnamed]
  | taken named kept => simp [named, kept]

/-! ### What a log tells -/

/-- The secret that a use inserted under a name. -/
def inserted? (ns name : String) : Use × Reply → Option Kube.Secret
  | (.insert ns' secret, .inserted (.ok ())) =>
    if ns' = ns ∧ secret.metadata.name = some name then some secret else none
  | _ => none

/-- The secret that a use created under a name, as it was to be created. -/
def created? (ns name : String) : Use × Reply → Option Kube.Secret
  | (.create ns' secret, .created (.ok (.created _))) =>
    if ns' = ns ∧ secret.metadata.name = some name then some secret else none
  | _ => none

/-- Whether a secret was answered as created. -/
def isCreation : Use × Reply → Bool
  | (_, .created (.ok (.created _))) => true
  | _ => false

section Log

variable (log : List (Use × Reply)) (ns name : String)

/-- The secrets that were inserted under a name, one after the other. -/
def insertions : List Kube.Secret := log.filterMap (inserted? ns name)

/-- The secrets that were created under a name, one after the other. -/
def creations : List Kube.Secret := log.filterMap (created? ns name)

/-- What was written last under a name: by the last insertion, or else by a creation. -/
def written? : Option Kube.Secret := (insertions log ns name).getLast?.or (creations log ns name).head?

end Log

/-- A store is what was done with it. -/
structure IsDescribedBy (m : MemoryStore) (log : List (Use × Reply)) : Prop where
  kept : ∀ ns name, m.get? ns name = (written? log ns name).map (withNamespace · ns)
  created_once : ∀ ns name, (creations log ns name).length ≤ 1
  created_first : log.Pairwise fun x y =>
    ∀ ns name, (inserted? ns name x).isSome → created? ns name y = none
  counted : m.creates = log.countP isCreation
  counted_le : m.creates ≤ m.size

/-- How a store answers of which a log tells: it reads what was written last, a secret with a name is
always put in and then kept, and only one without a name is refused. -/
structure AnswersBy (m : MemoryStore) (log : List (Use × Reply)) : Prop where
  entry : ∀ ns name s, m.get? ns name = some s →
    s.metadata.name = some name ∧ s.metadata.ns = some ns
  get : ∀ ns name, m.use (.get ns name) =
    (.got (.ok ((written? log ns name).map (withNamespace · ns))), m)
  taken_iff : ∀ ns secret, (m.use (.create ns secret)).1 = .created (.ok .alreadyExists) ↔
    ∃ name, secret.metadata.name = some name ∧ (m.get? ns name).isSome
  taken : ∀ ns secret, (m.use (.create ns secret)).1 = .created (.ok .alreadyExists) →
    (m.use (.create ns secret)).2 = m
  inserts : ∀ ns secret name, secret.metadata.name = some name →
    (m.use (.insert ns secret)).1 = .inserted (.ok ()) ∧
      ∀ ns' name', (m.use (.insert ns secret)).2.get? ns' name' =
        if ns' = ns ∧ name' = name then some (withNamespace secret ns) else m.get? ns' name'
  creates : ∀ ns secret name, secret.metadata.name = some name → m.get? ns name = none →
    (m.use (.create ns secret)).1 = .created (.ok (.created (withNamespace secret ns))) ∧
      ∀ ns' name', (m.use (.create ns secret)).2.get? ns' name' =
        if ns' = ns ∧ name' = name then some (withNamespace secret ns) else m.get? ns' name'
  unnamed : ∀ ns secret, secret.metadata.name = none →
    m.use (.insert ns secret) = (.inserted (.error (.store .unnamed)), m) ∧
      m.use (.create ns secret) = (.created (.error (.store .unnamed)), m)

/-! ### Each use keeps the description -/

section Written

variable {log : List (Use × Reply)} {ns name : String} {x : Use × Reply} {s : Kube.Secret}

theorem insertions_append (log : List (Use × Reply)) (x : Use × Reply) (ns name : String) :
    insertions (log ++ [x]) ns name = insertions log ns name ++ (inserted? ns name x).toList := by
  simp only [insertions, List.filterMap_append]
  cases h : inserted? ns name x <;> simp [h]

theorem creations_append (log : List (Use × Reply)) (x : Use × Reply) (ns name : String) :
    creations (log ++ [x]) ns name = creations log ns name ++ (created? ns name x).toList := by
  simp only [creations, List.filterMap_append]
  cases h : created? ns name x <;> simp [h]

/-- Nothing was written under a name if nothing was inserted and nothing created. -/
theorem written?_eq_none_iff :
    written? log ns name = none ↔ insertions log ns name = [] ∧ creations log ns name = [] := by
  simp [written?, Option.or_eq_none_iff]

theorem written?_append_of_none (hi : inserted? ns name x = none) (hc : created? ns name x = none) :
    written? (log ++ [x]) ns name = written? log ns name := by
  simp [written?, insertions_append, creations_append, hi, hc]

/-- An insertion is written over everything. -/
theorem written?_append_of_inserted (hi : inserted? ns name x = some s) :
    written? (log ++ [x]) ns name = some s := by
  simp [written?, insertions_append, hi]

/-- A creation is written where there is nothing. -/
theorem written?_append_of_created (hnone : written? log ns name = none)
    (hi : inserted? ns name x = none) (hc : created? ns name x = some s) :
    written? (log ++ [x]) ns name = some s := by
  obtain ⟨hinserted, hcreated⟩ := written?_eq_none_iff.1 hnone
  simp [written?, insertions_append, creations_append, hinserted, hcreated, hi, hc]

theorem inserted?_insert (ns : String) {secret : Kube.Secret}
    (named : secret.metadata.name = some name) (ns' name' : String) :
    inserted? ns' name' (.insert ns secret, .inserted (.ok ())) =
      if ns' = ns ∧ name' = name then some secret else none := by
  simp [inserted?, named, eq_comm]

theorem created?_create (ns : String) {secret : Kube.Secret}
    (named : secret.metadata.name = some name) (s : Kube.Secret) (ns' name' : String) :
    created? ns' name' (.create ns secret, .created (.ok (.created s))) =
      if ns' = ns ∧ name' = name then some secret else none := by
  simp [created?, named, eq_comm]

theorem name_of_inserted? (h : inserted? ns name x = some s) : s.metadata.name = some name := by
  unfold inserted? at h
  split at h
  · split at h
    · next hname => exact Option.some.inj h ▸ hname.2
    · cases h
  · cases h

theorem name_of_created? (h : created? ns name x = some s) : s.metadata.name = some name := by
  unfold created? at h
  split at h
  · split at h
    · next hname => exact Option.some.inj h ▸ hname.2
    · cases h
  · cases h

/-- What was written under a name has this name. -/
theorem name_of_written? (h : written? log ns name = some s) : s.metadata.name = some name := by
  rcases Option.or_eq_some_iff.1 h with hlast | ⟨-, hfirst⟩
  · obtain ⟨x, -, hx⟩ := List.mem_filterMap.1 (List.mem_of_getLast? hlast)
    exact name_of_inserted? hx
  · obtain ⟨x, -, hx⟩ := List.mem_filterMap.1 (List.mem_of_head? hfirst)
    exact name_of_created? hx

end Written

namespace IsDescribedBy

variable {m : MemoryStore} {log : List (Use × Reply)}

theorem empty : MemoryStore.empty.IsDescribedBy [] where
  kept _ _ := rfl
  created_once _ _ := Nat.zero_le 1
  created_first := .nil
  counted := rfl
  counted_le := Nat.le_refl 0

/-- A use may be added to the log that creates nothing under a name that was inserted. -/
theorem created_first_append (h : m.IsDescribedBy log) {x : Use × Reply}
    (hx : ∀ y ∈ log, ∀ ns name, (inserted? ns name y).isSome → created? ns name x = none) :
    (log ++ [x]).Pairwise fun y z =>
      ∀ ns name, (inserted? ns name y).isSome → created? ns name z = none := by
  refine List.pairwise_append.2 ⟨h.created_first, List.pairwise_singleton _ _, ?_⟩
  intro y hy z hz
  rw [List.mem_singleton.1 hz]
  exact hx y hy

/-- A use that writes nothing. -/
theorem silent (h : m.IsDescribedBy log) {x : Use × Reply}
    (hi : ∀ ns name, inserted? ns name x = none) (hc : ∀ ns name, created? ns name x = none)
    (hcount : isCreation x = false) : m.IsDescribedBy (log ++ [x]) where
  kept ns name := by rw [written?_append_of_none (hi ns name) (hc ns name), h.kept]
  created_once ns name := by
    rw [creations_append, hc, Option.toList_none, List.append_nil]
    exact h.created_once ns name
  created_first := h.created_first_append fun _ _ ns name _ => hc ns name
  counted := by rw [List.countP_append, List.countP_singleton, hcount, h.counted]; rfl
  counted_le := h.counted_le

variable {ns name : String} {secret : Kube.Secret}

theorem inserts (h : m.IsDescribedBy log) (named : secret.metadata.name = some name) :
    IsDescribedBy ⟨m.secrets.insert (ns, name) (withNamespace secret ns), m.creates⟩
      (log ++ [(.insert ns secret, .inserted (.ok ()))]) where
  kept ns' name' := by
    have hi := inserted?_insert ns named ns' name'
    rw [get?_insert]
    by_cases hk : ns' = ns ∧ name' = name
    · rw [if_pos hk] at hi ⊢
      rw [written?_append_of_inserted hi, hk.1]
      rfl
    · rw [if_neg hk] at hi ⊢
      rw [written?_append_of_none hi rfl, h.kept]
  created_once ns' name' := by
    rw [creations_append]
    simpa [created?] using h.created_once ns' name'
  created_first := h.created_first_append fun _ _ _ _ _ => rfl
  counted := by
    rw [List.countP_append, ← h.counted]
    rfl
  counted_le := by
    have hle := h.counted_le
    have hsize := m.secrets.size_insert (ns, name) (withNamespace secret ns)
    simp only [size] at hle ⊢
    split at hsize <;> omega

theorem creates (h : m.IsDescribedBy log) (named : secret.metadata.name = some name)
    (absent : m.get? ns name = none) :
    IsDescribedBy ⟨m.secrets.insert (ns, name) (withNamespace secret ns), m.creates + 1⟩
      (log ++ [(.create ns secret, .created (.ok (.created (withNamespace secret ns))))]) := by
  have hnone : written? log ns name = none := by simpa [h.kept] using absent
  obtain ⟨hinserted, hcreated⟩ := written?_eq_none_iff.1 hnone
  have hc := created?_create ns named (withNamespace secret ns)
  refine ⟨fun ns' name' => ?kept, fun ns' name' => ?once, ?first, ?counted, ?le⟩
  case kept =>
    rw [get?_insert]
    by_cases hk : ns' = ns ∧ name' = name
    · rw [if_pos hk]
      obtain ⟨rfl, rfl⟩ := hk
      have hc := hc ns' name'
      rw [if_pos ⟨rfl, rfl⟩] at hc
      rw [written?_append_of_created hnone rfl hc]
      rfl
    · have hc := hc ns' name'
      rw [if_neg hk] at hc ⊢
      rw [written?_append_of_none rfl hc, h.kept]
  case once =>
    have hc := hc ns' name'
    rw [creations_append, List.length_append]
    by_cases hk : ns' = ns ∧ name' = name
    · rw [if_pos hk] at hc
      rw [hc, hk.1, hk.2, hcreated]
      exact Nat.le_refl 1
    · rw [if_neg hk] at hc
      rw [hc]
      exact h.created_once ns' name'
  case first =>
    refine h.created_first_append fun y hy ns' name' hinsert => ?_
    rw [hc, if_neg]
    -- an insertion under this name would have been kept
    rintro ⟨rfl, rfl⟩
    obtain ⟨s, hs⟩ := Option.isSome_iff_exists.1 hinsert
    have hmem : s ∈ insertions log ns' name' := List.mem_filterMap.2 ⟨y, hy, hs⟩
    rw [hinserted] at hmem
    cases hmem
  case counted =>
    rw [List.countP_append, ← h.counted]
    rfl
  case le =>
    have hle := h.counted_le
    have hfree : m.secrets.contains (ns, name) = false := congrArg Option.isSome absent
    have hsize := m.secrets.size_insert (ns, name) (withNamespace secret ns)
    rw [hfree] at hsize
    simp only [size] at hle ⊢
    simp only [Bool.false_eq_true, if_false] at hsize
    omega

/-- Every use keeps the description, with its answer added to the log. -/
theorem use (h : m.IsDescribedBy log) (u : Use) :
    (m.use u).2.IsDescribedBy (log ++ [(u, (m.use u).1)]) := by
  have happening := m.happening_use u
  generalize (m.use u).1 = reply, (m.use u).2 = m' at happening
  cases happening with
  | inserts named => exact h.inserts named
  | creates named absent => exact h.creates named absent
  | insertsNone | createsNone | taken | reads => exact h.silent (fun _ _ => rfl) (fun _ _ => rfl) rfl

/-- Whatever the uses, a store that began empty is described by their log. -/
theorem after (uses : List Use) :
    (MemoryStore.empty.after uses).IsDescribedBy (MemoryStore.empty.log uses) := by
  induction uses using List.reverseRecOn with
  | nil => exact empty
  | append_singleton uses u ih =>
    rw [after_append, log_append]
    exact ih.use u

/-- A store answers by the log that describes it. -/
theorem answersBy (h : m.IsDescribedBy log) : m.AnswersBy log where
  entry ns name s hs := by
    rw [h.kept] at hs
    obtain ⟨secret, hwritten, rfl⟩ := Option.map_eq_some_iff.1 hs
    have hname : secret.metadata.name = some name := name_of_written? hwritten
    exact ⟨hname, rfl⟩
  get ns name := by
    rw [← h.kept]
    rfl
  taken_iff := m.taken_iff
  taken ns secret htaken := by
    obtain ⟨name, named, kept⟩ := (m.taken_iff ns secret).1 htaken
    rw [use_create_of_kept named kept]
  inserts ns secret name named := by
    rw [use_insert named]
    exact ⟨rfl, fun ns' name' => get?_insert ..⟩
  creates ns secret name named absent := by
    rw [use_create_of_absent named absent]
    exact ⟨rfl, fun ns' name' => get?_insert ..⟩
  unnamed ns secret unnamed := use_of_unnamed unnamed

end IsDescribedBy

/-- Whatever is done with a store that began empty, in whatever order: it is described by the log, and
so is what it answers next. -/
theorem isDescribedBy_after (uses : List Use) :
    (empty.after uses).IsDescribedBy (empty.log uses) ∧
      (empty.after uses).AnswersBy (empty.log uses) :=
  ⟨.after uses, (IsDescribedBy.after uses).answersBy⟩

example :
    let secret : Kube.Secret := { metadata := { name := some "a", ns := some "elsewhere" } }
    let uses := [.create "prod" secret, .create "test" secret,
      .insert "prod" { secret with immutable := some true }, .create "prod" secret,
      .insert "prod" {}, .get "other" "a"]
    (empty.log uses).map Prod.snd = [.created (.ok (.created (withNamespace secret "prod"))),
      .created (.ok (.created (withNamespace secret "test"))), .inserted (.ok ()),
      .created (.ok .alreadyExists), .inserted (.error (.store .unnamed)), .got (.ok none)] ∧
    (empty.after uses).creates = 2 ∧ (empty.after uses).size = 2 := by decide

end NodePki.MemoryStore
