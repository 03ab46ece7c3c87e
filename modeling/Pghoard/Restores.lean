import Pghoard.BackupInfo

/-!
# Restores that preserve their backup, interleaved

A restore run with `--preserve-until` records a preservation request for the backup
it restores (`try_request_backup_preservation`), keeps the returned name, and, with
`--cancel-preserve-on-success`, cancels the request at the end
(`try_cancel_backup_preservation`).  Any number of restores may run at once against
one object store.  Each storage call is one atomic step, and the steps of different
restores interleave in any order; a step may also raise (a transient storage error),
in which case it changes nothing and the `try_` wrapper swallows the error.

## Main definitions

* `RestoreClient` — the backup a restore preserves and its `preserve_until`.
* `Phase` — where a restore is: not started, holding request `r`, without a request
  (its request raised), or done (its cancel ran).
* `step`, `run` — one storage call of one restore; a sequence of them.

## Main results

* `requestName_of_preserved` — a restore holding a request holds the name its own
  backup and timestamp give.
* `preserved_request_present` — a restore holding a request finds it in the store,
  with its metadata, unless another restore whose request has the same key ran its
  cancel after this restore's request.
* `requestsHeld_of_distinct` — in particular, when no two restores build the same
  key, every held request is in the store.
* `shared_request_cancelled` — this exception is reachable: two restores of the same
  backup with the same `preserve_until` build one key, and the first cancel removes
  the protection the second still relies on.
-/

namespace Pghoard

/-- A restore that preserves its backup: the backup, as listed from the bucket, and
the `preserve_until` it was given. -/
structure RestoreClient where
  info : BaseBackupInfoFromBucket
  preserveUntil : Datetime

namespace RestoreClient

/-- The key the restore's request writes. -/
def key (c : RestoreClient) : String :=
  requestPath c.info.sitePrefix (requestName c.info.name c.preserveUntil)

/-- The object the restore's request writes. -/
def object (c : RestoreClient) : StoredObject :=
  ⟨[], requestMetadata c.info.name c.preserveUntil⟩

/-- Two restores whose requests have the same key write the same object. -/
theorem object_eq_of_key_eq {c d : RestoreClient} (h : c.key = d.key) : c.object = d.object := by
  simp only [object, requestPath_injective h]

end RestoreClient

/-- Where a restore is. -/
inductive Phase where
  /-- It has not yet asked for preservation. -/
  | idle
  /-- Its request returned `requestName`, and its cancel has not run. -/
  | preserved (requestName : String)
  /-- Its request raised: `try_request_backup_preservation` returned `None`. -/
  | unpreserved
  /-- Its cancel ran. -/
  | cancelled
  deriving DecidableEq

/-- One storage call of restore `i`; `raised` is the exception the call raised, if it
raised. -/
inductive Step (ι : Type) where
  | request (i : ι) (raised : Option PyError)
  | cancel (i : ι) (raised : Option PyError)
  deriving DecidableEq

/-- The object store and where each restore is. -/
structure World (ι : Type) where
  store : Store
  phase : ι → Phase

/-- The phase a request's outcome leaves a restore in. -/
def Phase.ofRequest : Option String → Phase
  | some r => .preserved r
  | none => .unpreserved

variable {ι : Type} [DecidableEq ι] (clients : ι → RestoreClient)

/-- One step; `none` when restore `i` is not at that point of its sequence. -/
def step (w : World ι) : Step ι → Option (World ι)
  | .request i raised =>
    match w.phase i with
    | .idle =>
      let res := (clients i).info.tryRequestBackupPreservation w.store (clients i).preserveUntil raised
      some ⟨res.2, Function.update w.phase i (Phase.ofRequest res.1)⟩
    | _ => none
  | .cancel i raised =>
    match w.phase i with
    | .preserved r =>
      some ⟨(clients i).info.tryCancelBackupPreservation w.store r raised,
        Function.update w.phase i .cancelled⟩
    | _ => none

/-- A sequence of steps, from `w`. -/
def run (w : World ι) : List (Step ι) → Option (World ι)
  | [] => some w
  | e :: es => (step clients w e).bind fun w' => run w' es

/-- No restore has started, and the store is `s`. -/
def init (s : Store) : World ι := ⟨s, fun _ => .idle⟩

theorem run_append (w : World ι) (es es' : List (Step ι)) :
    run clients w (es ++ es') = (run clients w es).bind fun w' => run clients w' es' := by
  induction es generalizing w with
  | nil => rfl
  | cons e es ih =>
    simp only [List.cons_append, run]
    cases step clients w e <;> simp [ih]

theorem run_concat {w w' : World ι} {es : List (Step ι)} {e : Step ι}
    (h : run clients w (es ++ [e]) = some w') :
    ∃ w₀, run clients w es = some w₀ ∧ step clients w₀ e = some w' := by
  rw [run_append] at h
  obtain ⟨w₀, h₀, h⟩ := Option.bind_eq_some.1 h
  exact ⟨w₀, h₀, by simpa [run] using h⟩

/-! ## What one step does -/

variable {clients}

/-- **The three things a step can do.**  A request of a restore not yet started writes
its key and leaves it holding its name, or raises and leaves it without a request; a
cancel of a restore holding `r` deletes the key of `r` or, when it raised or the key
was gone, changes nothing, and leaves it done. -/
theorem step_cases {w w' : World ι} {e : Step ι} (h : step clients w e = some w') :
    (∃ i, e = .request i none ∧ w.phase i = .idle ∧
      w'.phase = Function.update w.phase i
        (.preserved (requestName (clients i).info.name (clients i).preserveUntil)) ∧
      w'.store = w.store.storeFileFromMemory (clients i).key [] (clients i).object.metadata) ∨
    (∃ i err, e = .request i (some err) ∧ w.phase i = .idle ∧
      w'.phase = Function.update w.phase i .unpreserved ∧ w'.store = w.store) ∨
    (∃ i raised r, e = .cancel i raised ∧ w.phase i = .preserved r ∧
      w'.phase = Function.update w.phase i .cancelled ∧
      (w'.store = w.store ∨ raised = none ∧
        w.store.deleteKey (requestPath (clients i).info.sitePrefix r) = .ok w'.store)) := by
  cases e with
  | request i raised =>
    simp only [step] at h
    split at h <;> cases h
    rename_i hidle
    cases raised with
    | none => exact .inl ⟨i, rfl, hidle, rfl, rfl⟩
    | some err => exact .inr (.inl ⟨i, err, rfl, hidle, rfl, rfl⟩)
  | cancel i raised =>
    simp only [step] at h
    split at h <;> cases h
    rename_i r hr
    refine .inr (.inr ⟨i, raised, r, rfl, hr, rfl, ?_⟩)
    simp only [BaseBackupInfoFromBucket.tryCancelBackupPreservation]
    split
    · exact .inr ⟨rfl, ‹_›⟩
    · exact .inl rfl

/-- A cancel, gone through or not, leaves every other key as it was. -/
theorem lookup_of_cancel {s s' : Store} {key k : String} {raised : Option PyError}
    (h : s' = s ∨ raised = none ∧ s.deleteKey key = .ok s') (hk : k ≠ key) :
    s'.lookup k = s.lookup k := by
  rcases h with rfl | ⟨-, h⟩
  · rfl
  · exact Store.lookup_deleteKey_ne h hk

/-! ## Request names -/

/-- Every restore holding a request holds the name its own backup and timestamp give. -/
def NamesMatch (clients : ι → RestoreClient) (w : World ι) : Prop :=
  ∀ i r, w.phase i = .preserved r → r = requestName (clients i).info.name (clients i).preserveUntil

theorem namesMatch_step {w w' : World ι} {e : Step ι} (hw : NamesMatch clients w)
    (h : step clients w e = some w') : NamesMatch clients w' := by
  intro i r hi
  rcases step_cases h with ⟨j, -, -, hph, -⟩ | ⟨j, -, -, -, hph, -⟩ | ⟨j, -, -, -, -, hph, -⟩ <;>
    rw [hph] at hi <;> by_cases hij : i = j
  all_goals first
    | (subst hij; simp only [Function.update_same, Phase.preserved.injEq] at hi; exact hi.symm)
    | (subst hij; simp at hi)
    | (rw [Function.update_noteq hij] at hi; exact hw i r hi)

theorem namesMatch_run {w w' : World ι} {es : List (Step ι)} (hw : NamesMatch clients w)
    (h : run clients w es = some w') : NamesMatch clients w' := by
  induction es generalizing w with
  | nil => cases h; exact hw
  | cons e es ih =>
    obtain ⟨w₁, h₁, h⟩ := Option.bind_eq_some.1 h
    exact ih (namesMatch_step hw h₁) h

/-- A restore holding a request holds the name its own backup and timestamp give. -/
theorem requestName_of_preserved {s : Store} {es : List (Step ι)} {w : World ι}
    (h : run clients (init s) es = some w) {i : ι} {r : String} (hi : w.phase i = .preserved r) :
    r = requestName (clients i).info.name (clients i).preserveUntil :=
  namesMatch_run (fun _ _ h => by cases h) h i r hi

/-! ## Protection -/

/-- What a run keeps for restore `i`: while `i` holds a request, the run contains `i`'s
request, and after it either `i`'s key still holds `i`'s object, or a restore with the
same key ran a cancel whose storage call did not raise. -/
def Protected (clients : ι → RestoreClient) (i : ι) (es : List (Step ι)) (w : World ι) : Prop :=
  ∀ r, w.phase i = .preserved r → ∃ pre post, es = pre ++ .request i none :: post ∧
    (w.store.lookup (clients i).key = some (clients i).object ∨
      ∃ j, .cancel j none ∈ post ∧ j ≠ i ∧ (clients j).key = (clients i).key)

/-- A step outside `i`'s own request keeps `i` protected, and extends the run after it. -/
theorem protected_step {i : ι} {es : List (Step ι)} {w w' : World ι} {e : Step ι}
    (hnames : NamesMatch clients w) (hw : Protected clients i es w)
    (h : step clients w e = some w') : Protected clients i (es ++ [e]) w' := by
  intro r hi
  have hlater : ∀ {post : List (Step ι)}, (∃ j, .cancel j none ∈ post ∧ j ≠ i ∧
      (clients j).key = (clients i).key) → ∃ j, .cancel j none ∈ post ++ [e] ∧ j ≠ i ∧
        (clients j).key = (clients i).key :=
    fun ⟨j, hmem, hj⟩ => ⟨j, List.mem_append_left _ hmem, hj⟩
  rcases step_cases h with ⟨j, rfl, -, hph, hst⟩ | ⟨j, err, rfl, -, hph, hst⟩ |
    ⟨j, raised, rj, rfl, hj, hph, hst⟩
  · -- a request that went through
    by_cases hij : i = j
    · subst hij
      refine ⟨es, [], rfl, .inl ?_⟩
      rw [hst, Store.lookup_storeFileFromMemory]; rfl
    rw [hph, Function.update_noteq hij] at hi
    obtain ⟨pre, post, rfl, hprot⟩ := hw r hi
    refine ⟨pre, post ++ [.request j none], by simp, hprot.imp (fun hkey => ?_) hlater⟩
    rw [hst]
    by_cases hkj : (clients i).key = (clients j).key
    · rw [hkj, Store.lookup_storeFileFromMemory, RestoreClient.object_eq_of_key_eq hkj]; rfl
    · rw [Store.lookup_storeFileFromMemory_ne _ _ hkj, hkey]
  · -- a request that raised
    by_cases hij : i = j
    · subst hij; simp [hph] at hi
    rw [hph, Function.update_noteq hij] at hi
    obtain ⟨pre, post, rfl, hprot⟩ := hw r hi
    exact ⟨pre, post ++ [.request j (some err)], by simp, hst ▸ hprot.imp_right hlater⟩
  · -- a cancel
    by_cases hij : i = j
    · subst hij; simp [hph] at hi
    rw [hph, Function.update_noteq hij] at hi
    obtain ⟨pre, post, rfl, hprot⟩ := hw r hi
    refine ⟨pre, post ++ [.cancel j raised], by simp, ?_⟩
    rcases hst with hst | ⟨rfl, hst⟩
    · exact hst ▸ hprot.imp_right hlater
    by_cases hkj : (clients j).key = (clients i).key
    · exact .inr ⟨j, by simp, Ne.symm hij, hkj⟩
    have hne : (clients i).key ≠ requestPath (clients j).info.sitePrefix rj := by
      rw [hnames j rj hj]; exact Ne.symm hkj
    rw [Store.lookup_deleteKey_ne hst hne]
    exact hprot.imp_right hlater

/-- Along every run, the names held match and every restore is protected. -/
theorem protected_run (s : Store) (i : ι) {es : List (Step ι)} :
    ∀ {w : World ι}, run clients (init s) es = some w →
      NamesMatch clients w ∧ Protected clients i es w := by
  induction es using List.reverseRecOn with
  | nil =>
    intro w h; cases h
    exact ⟨(fun _ _ h => by cases h), fun _ h => by cases h⟩
  | append_singleton es e ih =>
    intro w' h
    obtain ⟨w, hw, hstep⟩ := run_concat clients h
    obtain ⟨hnames, hprot⟩ := ih hw
    exact ⟨namesMatch_step hnames hstep, protected_step hnames hprot hstep⟩

/-- **A held request is in the store, unless a restore sharing its key cancelled.**  In
every reachable state, a restore that holds a request (its request went through and
its cancel has not run) finds its key `<prefix>/preservation_request/<name>_<until>`
in the store with an empty body and its own metadata, unless another restore whose
request builds the same key ran, after this restore's request, a cancel whose storage
call did not raise. -/
theorem preserved_request_present {s : Store} {es : List (Step ι)} {w : World ι}
    (h : run clients (init s) es = some w) {i : ι} {r : String} (hi : w.phase i = .preserved r) :
    w.store.lookup (clients i).key = some (clients i).object ∨
      ∃ pre post j, es = pre ++ .request i none :: post ∧ .cancel j none ∈ post ∧
        j ≠ i ∧ (clients j).key = (clients i).key := by
  obtain ⟨pre, post, hes, hprot⟩ := (protected_run s i h).2 r hi
  exact hprot.imp_right fun ⟨j, hmem, hj, hk⟩ => ⟨pre, post, j, hes, hmem, hj, hk⟩

/-! ## Two restores of one backup -/

/-- Two restores of one backup, given the same `--preserve-until`. -/
def sameRequest : Fin 2 → RestoreClient :=
  fun _ => ⟨⟨⟨"site_name/basebackup/2022_12_10", "site_name", []⟩, "site_name"⟩, testPreserveUntil⟩

/-- The two restores of `sameRequest` request, then the first cancels. -/
def requestBothCancelFirst : List (Step (Fin 2)) :=
  [.request 0 none, .request 1 none, .cancel 0 none]

/-- Where `requestBothCancelFirst` ends: the shared key deleted by the first restore's
cancel, the second restore still holding its request. -/
def firstCancelled : World (Fin 2) :=
  ⟨(((∅ : Store).storeFileFromMemory (sameRequest 0).key [] (sameRequest 0).object.metadata
      ).storeFileFromMemory (sameRequest 1).key [] (sameRequest 1).object.metadata).erase
      (sameRequest 0).key,
    Function.update (Function.update (Function.update (fun _ => .idle) 0
      (.preserved (requestName "site_name/basebackup/2022_12_10" testPreserveUntil))) 1
      (.preserved (requestName "site_name/basebackup/2022_12_10" testPreserveUntil))) 0
      .cancelled⟩

/-- The two restores of `sameRequest` request, then both cancel. -/
def requestBothCancelBoth : List (Step (Fin 2)) := requestBothCancelFirst ++ [.cancel 1 none]

/-- Where `requestBothCancelBoth` ends: the second cancel finds the shared key gone, and
both restores are done. -/
def bothCancelled : World (Fin 2) :=
  ⟨firstCancelled.store, Function.update firstCancelled.phase 1 .cancelled⟩

theorem preserved_request_present_firstCancelled :
    run sameRequest (init ∅) requestBothCancelFirst = some firstCancelled ∧
      firstCancelled.phase 1 =
        .preserved (requestName "site_name/basebackup/2022_12_10" testPreserveUntil) ∧
      (firstCancelled.store.lookup (sameRequest 1).key = some (sameRequest 1).object ∨
        ∃ pre post j, requestBothCancelFirst = pre ++ .request 1 none :: post ∧
          .cancel j none ∈ post ∧ j ≠ 1 ∧ (sameRequest j).key = (sameRequest 1).key) :=
  have hrun : run sameRequest (init ∅) requestBothCancelFirst = some firstCancelled := rfl
  have hphase : firstCancelled.phase 1 =
      .preserved (requestName "site_name/basebackup/2022_12_10" testPreserveUntil) := rfl
  ⟨hrun, hphase, preserved_request_present hrun hphase⟩

/-- The protection a restore holding a request relies on: some key inside its site's
request directory whose metadata names its backup and its timestamp. -/
def RequestsHeld (clients : ι → RestoreClient) (s : Store) : Prop :=
  ∀ es w, run clients (init s) es = some w → ∀ i r, w.phase i = .preserved r →
    ∃ k obj, w.store.lookup k = some obj ∧
      (leafIn (preservationDir (clients i).info.sitePrefix) k).isSome ∧
      obj.metadata.lookup "preserve-backup" = some (PurePosixPath.name (clients i).info.name) ∧
      obj.metadata.lookup "preserve-until" = some (clients i).preserveUntil.str

/-- **With distinct request keys, no cancel removes another restore's protection.** -/
theorem requestsHeld_of_distinct (s : Store)
    (hdistinct : ∀ i j, i ≠ j → (clients i).key ≠ (clients j).key) : RequestsHeld clients s := by
  intro es w h i r hi
  have hkey : w.store.lookup (clients i).key = some (clients i).object := by
    obtain ⟨_, _, -, hprot⟩ := (protected_run s i h).2 r hi
    refine hprot.resolve_right ?_
    rintro ⟨j, -, hji, hk⟩
    exact hdistinct j i hji hk
  refine ⟨_, _, hkey, ?_, rfl, rfl⟩
  rw [RestoreClient.key, requestPath_leafIn]; rfl

/-- Two restores of one backup, given different `--preserve-until`s. -/
def twoDates : Fin 2 → RestoreClient :=
  fun i => ⟨(sameRequest i).info,
    ⟨⟨2022, 12, 18 + i.val, by decide, by decide, by have := i.isLt; simp [daysInMonth]; omega⟩,
      10, 20, 30, 123456, some ⟨⟨0, by decide⟩, none⟩, 0, by decide, by decide, by decide,
      by decide⟩⟩

theorem requestsHeld_twoDates :
    (∀ i j, i ≠ j → (twoDates i).key ≠ (twoDates j).key) ∧ RequestsHeld twoDates ∅ :=
  ⟨by decide, requestsHeld_of_distinct ∅ (by decide)⟩

/-- **A cancel removes the protection another restore relies on**: the first restore
requests, the second requests the same key, the first cancels; the second still holds
its request, and the store has no request left. -/
theorem shared_request_cancelled : ¬ RequestsHeld sameRequest ∅ := by
  intro h
  obtain ⟨k, obj, hk, -⟩ := h _ firstCancelled
    (show run sameRequest (init ∅) requestBothCancelFirst = some firstCancelled from rfl) 1 _ rfl
  have hempty : firstCancelled.store.entries = [] := by decide
  have hmem : k ∈ firstCancelled.store.entries.keys :=
    AList.mem_keys.1 (AList.lookup_isSome.1 (by rw [hk]; rfl))
  rw [hempty] at hmem
  exact List.not_mem_nil k hmem

end Pghoard
