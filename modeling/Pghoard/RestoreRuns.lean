import Pghoard.Restores
import Pghoard.ObjectStores

/-!
# What any run of restores does to the store

The restores of `Restores` reach the store only through their preservation requests and
cancels, and each of these writes or deletes one key, the key of the restore's own
request.  Seen one key at a time, the store of any interleaving is therefore a register:
it holds what the last request or cancel at that key left there, and what it held at the
start when no step touched it.  `lookup_run` proves this refinement for every run, and
the facts a maintainer relies on follow from it: a run changes request keys only, so a
backup's manifest reads the same in every state, and a run in which every restore that
requested has also cancelled, without an error, leaves no request behind.  A last section
follows a backup from the bucket listing into the request a restore writes for it.

## Main definitions

* `effectAt` — what one step does at one key: writes the restore's request object,
  empties the key, or leaves it alone.
* `lastEffect` — the last effect a sequence of steps has at a key, if any.
* `ClearedAt` — what a run whose cancels do not raise keeps at a key that no held request
  uses.

## Main results

* `lookup_run` — in every state a run reaches, each key holds what its last effect left
  there, or its initial contents when no step touched it.
* `RestoreClient.key_eq_iff` — restores share a key exactly when their request
  directories, the last components of their backups' names and what `str` shows of their
  `preserve_until` agree.
* `basebackupReads_run` — a backup whose manifest lies directly inside a `basebackup`
  directory reads the same metadata and bytes in every such state.
* `lookup_run_of_cancelled` — when no cancel raised and no restore holds a request any
  more, the store is the initial one, except that the key of every restore that
  cancelled is empty.
* `listBasebackups_run` — no run changes what the bucket listing returns.
* `requestBackupPreservation_listed` — a backup the bucket listing returns is a file
  `leaf` of its site's `basebackup` directory, and the request for it is named after
  `leaf` and lies in the same site's request directory.

## Design notes

`effectAt` reads the key of a cancel as the cancelling restore's own key.  The code
deletes the key of the name the restore holds; in every reachable state that name is the
one its own request built (`NamesMatch`), and `lookup_step` takes this as its hypothesis.
A cancel that did not raise empties its key whether `delete_key` found the key or raised
`FileNotFoundFromStorage`, which `try_cancel_backup_preservation` swallows.
-/

namespace Pghoard

variable {ι : Type} (clients : ι → RestoreClient)

/-! ## The store as a register per key -/

/-- What step `e` does at key `k`: a request that went through writes its object there
(`some (some _)`), a cancel that did not raise leaves `k` empty (`some none`), and every
other step leaves `k` alone (`none`). -/
def effectAt (k : String) : Step ι → Option (Option StoredObject)
  | .request i none => if (clients i).key = k then some (some (clients i).object) else none
  | .cancel i none => if (clients i).key = k then some none else none
  | _ => none

/-- The last effect the steps `es` have at `k`. -/
def lastEffect (k : String) (es : List (Step ι)) : Option (Option StoredObject) :=
  (es.filterMap (effectAt clients k)).getLast?

theorem lastEffect_concat (k : String) (es : List (Step ι)) (e : Step ι) :
    lastEffect clients k (es ++ [e]) = (effectAt clients k e).or (lastEffect clients k es) := by
  cases h : effectAt clients k e <;> simp [lastEffect, List.filterMap_append, h]

/-- Steps of restores whose keys all differ from `k` have no effect at `k`. -/
theorem lastEffect_eq_none {k : String} (hk : ∀ i, (clients i).key ≠ k) (es : List (Step ι)) :
    lastEffect clients k es = none := by
  have hnone : ∀ e, effectAt clients k e = none := by
    rintro (⟨i, _ | _⟩ | ⟨i, _ | _⟩) <;> simp [effectAt, hk i]
  simp [lastEffect, List.filterMap_eq_nil_iff.2 fun e _ => hnone e]

variable {clients}

/-- No restore has started, so no restore holds a name. -/
theorem namesMatch_init (s : Store) : NamesMatch clients (init s) := fun _ _ h => by cases h

variable [DecidableEq ι]

/-- A store that holds `v` at `key` and agrees with `s` elsewhere, seen at `k`. -/
theorem lookup_eq_getD {s s' : Store} {key k : String} {v : Option StoredObject}
    (hkey : s'.lookup key = v) (hframe : ∀ k ≠ key, s'.lookup k = s.lookup k) :
    s'.lookup k = (if key = k then some v else none).getD (s.lookup k) := by
  split_ifs with h
  · subst h; exact hkey
  · exact hframe k (Ne.symm h)

/-- **What one step does at one key.**  When every restore holding a name holds its
own, each key after a step holds what `effectAt` says. -/
theorem lookup_step {w w' : World ι} {e : Step ι} (hw : NamesMatch clients w)
    (h : step clients w e = some w') (k : String) :
    w'.store.lookup k = (effectAt clients k e).getD (w.store.lookup k) := by
  cases e with
  | request i raised =>
    simp only [step] at h
    split at h <;> cases h
    cases raised with
    | some err => rfl
    | none =>
      exact lookup_eq_getD (Store.lookup_storeFileFromMemory _ _ _)
        fun _ hk => Store.lookup_storeFileFromMemory_ne _ _ hk
  | cancel i raised =>
    simp only [step] at h
    split at h <;> cases h
    rename_i r hr
    have hkey : requestPath (clients i).info.sitePrefix r = (clients i).key := by
      rw [hw i r hr]; rfl
    cases raised with
    | some err => rfl
    | none =>
      simp only [BaseBackupInfoFromBucket.tryCancelBackupPreservation,
        BaseBackupInfoFromBucket.cancelBackupPreservation, hkey]
      cases hdel : w.store.deleteKey (clients i).key with
      | ok s' =>
        exact lookup_eq_getD (Store.lookup_deleteKey hdel)
          fun _ hk => Store.lookup_deleteKey_ne hdel hk
      | error err =>
        exact lookup_eq_getD (AList.lookup_eq_none.2 (Store.deleteKey_eq_error hdel))
          fun _ _ => rfl

/-- **Seen one key at a time, the store of any run is a register.**  In every state that
an interleaving of the restores' requests and cancels reaches from the store `s`, key `k`
holds what the last request or cancel at `k` left there, and what `s` holds at `k` when
none touched it. -/
theorem lookup_run {s : Store} {es : List (Step ι)} {w : World ι}
    (h : run clients (init s) es = some w) (k : String) :
    w.store.lookup k = (lastEffect clients k es).getD (s.lookup k) := by
  induction es using List.reverseRecOn generalizing w with
  | nil => cases h; rfl
  | append_singleton es e ih =>
    obtain ⟨w₀, h₀, hstep⟩ := run_concat clients h
    rw [lookup_step (namesMatch_run (namesMatch_init s) h₀) hstep, ih h₀, lastEffect_concat]
    cases effectAt clients k e <;> rfl

theorem lookup_firstCancelled :
    run sameRequest (init ∅) requestBothCancelFirst = some firstCancelled ∧
      firstCancelled.store.lookup (sameRequest 1).key =
        (lastEffect sameRequest (sameRequest 1).key requestBothCancelFirst).getD
          ((∅ : Store).lookup (sameRequest 1).key) :=
  have hrun : run sameRequest (init ∅) requestBothCancelFirst = some firstCancelled := rfl
  ⟨hrun, lookup_run hrun _⟩

/-! ## Which restores share a key -/

/-- **A request key names a request directory, a backup name and what `str` shows of a
`datetime`**: two restores write the same key exactly when their sites' request
directories are the same, their backups' names have the same last component, and their
`preserve_until`s agree in date, time, microseconds and UTC offset.  `str` shows neither
`fold` nor which `tzinfo` object gives the offset, so `datetime`s that differ only there
share a key. -/
theorem RestoreClient.key_eq_iff {c d : RestoreClient} :
    c.key = d.key ↔
      preservationDir c.info.sitePrefix = preservationDir d.info.sitePrefix ∧
        PurePosixPath.name c.info.name = PurePosixPath.name d.info.name ∧
          c.preserveUntil.shown = d.preserveUntil.shown := by
  rw [RestoreClient.key, RestoreClient.key, requestPath_eq_iff, Datetime.str_eq_iff]

/-- `testPreserveUntil` with `fold=1` and `tzinfo=timezone(timedelta(0), "UTC")`. -/
def namedUtcPreserveUntil : Datetime :=
  { testPreserveUntil with tzinfo := some ⟨⟨0, by decide⟩, some "UTC"⟩, fold := 1 }

/-- The first restore of `sameRequest`, preserving until `namedUtcPreserveUntil`. -/
def namedUtcRequest : RestoreClient := ⟨(sameRequest 0).info, namedUtcPreserveUntil⟩

theorem RestoreClient.key_eq_namedUtcRequest :
    (sameRequest 0).preserveUntil ≠ namedUtcRequest.preserveUntil ∧
      (sameRequest 0).key = namedUtcRequest.key :=
  ⟨fun h => absurd (congrArg Datetime.fold h) (by decide),
    RestoreClient.key_eq_iff.2 ⟨rfl, rfl, rfl⟩⟩

/-! ## Backups read the same -/

/-- A request key is never directly inside a `basebackup` directory, whatever the two
site prefixes. -/
theorem leafIn_basebackup_requestPath (q p : String) {r : String} (hr : '/' ∉ r.data) :
    leafIn (OsPath.join q ["basebackup"]) (requestPath p r) = none := by
  cases hleaf : leafIn (OsPath.join q ["basebackup"]) (requestPath p r) with
  | none => rfl
  | some leaf =>
    obtain ⟨hkey, -, hleaf'⟩ := leafIn_eq_some hleaf
    rw [requestPath_eq p hr] at hkey
    have hdata := congrArg String.data hkey
    simp only [String.data_append, List.append_assoc, show ("/" : String).data = ['/'] from rfl,
      List.singleton_append] at hdata
    obtain ⟨hdir, -⟩ := eq_of_append_cons_eq hdata hr hleaf'
    have hlast := getLast?_preservationDir p
    have hbasebackup : (OsPath.join q ["basebackup"]).data.getLast? = some 'p' :=
      OsPath.getLast?_join₂ q "basebackup" (by decide)
    rw [hdir, hbasebackup] at hlast
    exact absurd hlast (by decide)

/-- No restore's key lies directly inside a `basebackup` directory. -/
theorem key_ne_of_leafIn_basebackup {q k : String}
    (hk : (leafIn (OsPath.join q ["basebackup"]) k).isSome) (c : RestoreClient) : c.key ≠ k := by
  rintro rfl
  rw [RestoreClient.key, leafIn_basebackup_requestPath q _ (slash_not_mem_requestName _ _)] at hk
  cases hk

/-- **Restores never change what a backup reads.**  For a backup whose manifest lies
directly inside some `<prefix>/basebackup`, as every backup the bucket listing returns
does, `get_basebackup_metadata`, `get_basebackup_file_to_fileobj` and `get_file_bytes`
return in every state a run reaches what they return on the initial store. -/
theorem basebackupReads_run {s : Store} {es : List (Step ι)} {w : World ι}
    (h : run clients (init s) es = some w) (info : BaseBackupInfoFromBucket) {q : String}
    (hname : (leafIn (OsPath.join q ["basebackup"]) info.name).isSome) :
    info.getBasebackupMetadata w.store = info.getBasebackupMetadata s ∧
      info.getBasebackupFileToFileobj w.store = info.getBasebackupFileToFileobj s ∧
      info.getFileBytes w.store = info.getFileBytes s := by
  have hlookup : w.store.lookup info.name = s.lookup info.name := by
    rw [lookup_run h, lastEffect_eq_none clients fun i => key_ne_of_leafIn_basebackup hname _]
    rfl
  obtain ⟨hmeta, hcontents⟩ := Store.reads_congr hlookup
  exact ⟨hmeta, hcontents, congrArg (Except.map Prod.fst) hcontents⟩

theorem basebackupReads_oneManifest :
    ∃ w, run sameRequest (init oneManifest) requestBothCancelFirst = some w ∧
      (leafIn (OsPath.join "site_name" ["basebackup"]) listedManifest.name).isSome ∧
      listedManifest.getBasebackupMetadata w.store =
        listedManifest.getBasebackupMetadata oneManifest ∧
      listedManifest.getBasebackupFileToFileobj w.store =
        listedManifest.getBasebackupFileToFileobj oneManifest ∧
      listedManifest.getFileBytes w.store = listedManifest.getFileBytes oneManifest :=
  have hrun : run sameRequest (init oneManifest) requestBothCancelFirst = some _ := rfl
  have hname : (leafIn (OsPath.join "site_name" ["basebackup"]) listedManifest.name).isSome := by
    decide
  ⟨_, hrun, hname, basebackupReads_run hrun _ hname⟩

/-! ## Restores that all cancel -/

variable (clients) in
/-- What a run whose cancels do not raise keeps at key `k`, when no restore holding a
request has `k` for its key: `k` is empty once a restore with that key has cancelled, and
holds its initial contents otherwise. -/
def ClearedAt (s : Store) (w : World ι) (k : String) : Prop :=
  (∀ j r, w.phase j = .preserved r → (clients j).key ≠ k) →
    ((∃ j, w.phase j = .cancelled ∧ (clients j).key = k) → w.store.lookup k = none) ∧
    ((∀ j, w.phase j = .cancelled → (clients j).key ≠ k) → w.store.lookup k = s.lookup k)

/-- A step of restore `j` that leaves `k` as it was keeps `k` cleared, when `j`'s key is
not `k` or the step took `j` from not started to without a request. -/
theorem clearedAt_frame {s : Store} {w w' : World ι} {k : String} {j : ι}
    (hother : ∀ i ≠ j, w'.phase i = w.phase i)
    (hj : (clients j).key = k → w.phase j = .idle ∧ w'.phase j = .unpreserved)
    (hlookup : w'.store.lookup k = w.store.lookup k) (hw : ClearedAt clients s w k) :
    ClearedAt clients s w' k := by
  intro hfree
  have hsame : ∀ i, (clients i).key = k →
      (∀ r, w.phase i = .preserved r → w'.phase i = .preserved r) ∧
        (w'.phase i = .cancelled ↔ w.phase i = .cancelled) := by
    intro i hik
    by_cases hij : i = j
    · subst hij
      rw [(hj hik).1, (hj hik).2]
      exact ⟨fun _ h => (by cases h), fun h => (by cases h), fun h => (by cases h)⟩
    · rw [hother i hij]
      exact ⟨fun _ h => h, Iff.rfl⟩
  obtain ⟨hnone, hinit⟩ := hw fun i r hi hik => hfree i r ((hsame i hik).1 r hi) hik
  rw [hlookup]
  exact ⟨fun ⟨i, hi, hik⟩ => hnone ⟨i, (hsame i hik).2.1 hi, hik⟩,
    fun hno => hinit fun i hi hik => hno i ((hsame i hik).2.2 hi) hik⟩

/-- A step other than a cancel that raised keeps every key cleared. -/
theorem clearedAt_step {s : Store} {w w' : World ι} {e : Step ι} (hnames : NamesMatch clients w)
    (h : step clients w e = some w') (he : ∀ j err, e ≠ .cancel j (some err)) (k : String)
    (hw : ClearedAt clients s w k) : ClearedAt clients s w' k := by
  have hlookup := lookup_step hnames h k
  rcases step_cases h with ⟨j, rfl, -, hph, -⟩ | ⟨j, err, rfl, hidle, hph, -⟩ |
    ⟨j, raised, r, rfl, -, hph, -⟩
  · -- a request that went through: its key has a holder now
    by_cases hjk : (clients j).key = k
    · exact fun hfree => absurd hjk (hfree j _ (by rw [hph, Function.update_same]))
    · exact clearedAt_frame (fun i hi => by rw [hph, Function.update_noteq hi])
        (fun h => absurd h hjk) (by simp [hlookup, effectAt, hjk]) hw
  · -- a request that raised: only its own phase changes
    exact clearedAt_frame (fun i hi => by rw [hph, Function.update_noteq hi])
      (fun _ => ⟨hidle, by rw [hph, Function.update_same]⟩) hlookup hw
  · -- a cancel, which did not raise
    cases raised with
    | some err => exact absurd rfl (he j err)
    | none =>
      by_cases hjk : (clients j).key = k
      · intro _
        have hk : w'.store.lookup k = none := by simp [hlookup, effectAt, hjk]
        exact ⟨fun _ => hk, fun hno => absurd hjk (hno j (by rw [hph, Function.update_same]))⟩
      · exact clearedAt_frame (fun i hi => by rw [hph, Function.update_noteq hi])
          (fun h => absurd h hjk) (by simp [hlookup, effectAt, hjk]) hw

theorem clearedAt_run {s : Store} {es : List (Step ι)} {w : World ι}
    (h : run clients (init s) es = some w) (hes : ∀ j err, Step.cancel j (some err) ∉ es)
    (k : String) : ClearedAt clients s w k := by
  induction es using List.reverseRecOn generalizing w with
  | nil => cases h; exact fun _ => ⟨fun ⟨_, hj, _⟩ => (by cases hj), fun _ => rfl⟩
  | append_singleton es e ih =>
    obtain ⟨w₀, h₀, hstep⟩ := run_concat clients h
    exact clearedAt_step (namesMatch_run (namesMatch_init s) h₀) hstep
      (fun j err he => hes j err (he ▸ List.mem_append_right _ (List.mem_singleton_self _))) k
      (ih h₀ fun j err hj => hes j err (List.mem_append_left _ hj))

/-- **Restores that all cancel leave no request behind.**  When no cancel of a run raised
and no restore holds a request at its end, as when every restore ran with
`--cancel-preserve-on-success` and finished, the key of every restore that cancelled is
empty, and every other key holds what it held before the restores, whatever the order
of their steps and whether or not they shared keys. -/
theorem lookup_run_of_cancelled {s : Store} {es : List (Step ι)} {w : World ι}
    (h : run clients (init s) es = some w) (hes : ∀ j err, Step.cancel j (some err) ∉ es)
    (hdone : ∀ j r, w.phase j ≠ .preserved r) :
    (∀ j, w.phase j = .cancelled → w.store.lookup (clients j).key = none) ∧
      ∀ k, (∀ j, w.phase j = .cancelled → (clients j).key ≠ k) →
        w.store.lookup k = s.lookup k :=
  ⟨fun j hj => (clearedAt_run h hes _ fun i r hi => absurd hi (hdone i r)).1 ⟨j, hj, rfl⟩,
    fun k hk => (clearedAt_run h hes k fun i r hi => absurd hi (hdone i r)).2 hk⟩

theorem lookup_run_of_cancelled_sameRequest :
    run sameRequest (init ∅) requestBothCancelBoth = some bothCancelled ∧
      (∀ j err, Step.cancel j (some err) ∉ requestBothCancelBoth) ∧
      (∀ j r, bothCancelled.phase j ≠ .preserved r) ∧
      (∀ j, bothCancelled.phase j = .cancelled →
        bothCancelled.store.lookup (sameRequest j).key = none) ∧
      ∀ k, (∀ j, bothCancelled.phase j = .cancelled → (sameRequest j).key ≠ k) →
        bothCancelled.store.lookup k = (∅ : Store).lookup k :=
  have hrun : run sameRequest (init ∅) requestBothCancelBoth = some bothCancelled := rfl
  have hes : ∀ j err, Step.cancel j (some err) ∉ requestBothCancelBoth := by
    intro j err; simp [requestBothCancelBoth, requestBothCancelFirst]
  have hdone : ∀ j r, bothCancelled.phase j ≠ .preserved r := by
    have hcancelled : ∀ j, bothCancelled.phase j = .cancelled := by decide
    intro j r hj
    rw [hcancelled j] at hj
    cases hj
  ⟨hrun, hes, hdone, lookup_run_of_cancelled hrun hes hdone⟩

/-! ## Restores do not change the listing -/

/-- A step of the restores leaves every `basebackup` listing as it was. -/
theorem listPath_basebackup_step {w w' : World ι} {e : Step ι} (hw : NamesMatch clients w)
    (h : step clients w e = some w') (q : String) :
    w'.store.listPath (OsPath.join q ["basebackup"]) =
      w.store.listPath (OsPath.join q ["basebackup"]) := by
  rcases step_cases h with
    ⟨i, -, -, -, hst⟩ | ⟨-, -, -, -, -, hst⟩ | ⟨i, _, r, -, hr, -, hst⟩
  · rw [hst]
    exact Store.listPath_storeFileFromMemory_of_leafIn_eq_none _ _
      (leafIn_basebackup_requestPath q _ (slash_not_mem_requestName _ _))
  · rw [hst]
  · rcases hst with hst | ⟨-, hst⟩
    · rw [hst]
    · refine Store.listPath_deleteKey_of_leafIn_eq_none hst (leafIn_basebackup_requestPath q _ ?_)
      rw [hw i r hr]
      exact slash_not_mem_requestName _ _

theorem listPath_basebackup_run {s : Store} {es : List (Step ι)} {w : World ι}
    (h : run clients (init s) es = some w) (q : String) :
    w.store.listPath (OsPath.join q ["basebackup"]) = s.listPath (OsPath.join q ["basebackup"]) := by
  induction es using List.reverseRecOn generalizing w with
  | nil => cases h; rfl
  | append_singleton es e ih =>
    obtain ⟨w₀, h₀, hstep⟩ := run_concat clients h
    exact (listPath_basebackup_step (namesMatch_run (namesMatch_init s) h₀) hstep q).trans (ih h₀)

/-- The bucket listing reads a site's store only through its `basebackup` listings. -/
theorem BucketObjectStore.listBasebackups_congr {config : PyDict} {callsOf : String → SiteCalls}
    {storeOf storeOf' : String → Store}
    (h : ∀ site q, (storeOf site).listPath (OsPath.join q ["basebackup"]) =
      (storeOf' site).listPath (OsPath.join q ["basebackup"])) :
    ∀ sites, listBasebackups config callsOf storeOf sites =
      listBasebackups config callsOf storeOf' sites
  | [] => rfl
  | site :: sites => by
    simp only [listBasebackups, listSite, h site, listBasebackups_congr h sites]

/-- **Restores never change the bucket listing**: in every state that any interleaving
of preservation requests and cancels reaches, `list_basebackups` returns what it
returned on the initial store, or raises what it raised there, for every configuration,
every list of sites and whatever the sites' storage calls raise. -/
theorem listBasebackups_run {s : Store} {es : List (Step ι)} {w : World ι}
    (h : run clients (init s) es = some w) (config : PyDict) (callsOf : String → SiteCalls)
    (sites : List String) :
    BucketObjectStore.listBasebackups config callsOf (fun _ => w.store) sites =
      BucketObjectStore.listBasebackups config callsOf (fun _ => s) sites :=
  BucketObjectStore.listBasebackups_congr (fun _ q => listPath_basebackup_run h q) sites

theorem listBasebackups_oneManifest_bothCancelled :
    ∃ w, run sameRequest (init oneManifest) requestBothCancelBoth = some w ∧
      BucketObjectStore.listBasebackups siteConfig (fun _ => .returning) (fun _ => w.store)
          ["site_name"] =
        BucketObjectStore.listBasebackups siteConfig (fun _ => .returning) (fun _ => oneManifest)
          ["site_name"] :=
  have hrun : run sameRequest (init oneManifest) requestBothCancelBoth = some _ := rfl
  ⟨_, hrun, listBasebackups_run hrun siteConfig _ ["site_name"]⟩

/-! ## From the listing to the request -/

/-- **A restore names a listed backup after its manifest file.**  Every backup the bucket
listing returns is a file `leaf` directly inside its site's `<prefix>/basebackup`, and,
unless that file is called `.`, `request_backup_preservation` names the request
`<leaf>_<preserve_until>`, writes it inside the same site's request directory, and
records `leaf` as the backup it preserves. -/
theorem requestBackupPreservation_listed {config : PyDict} {callsOf : String → SiteCalls}
    {storeOf : String → Store} {sites : List String} {result : List BaseBackupInfoFromBucket}
    (hlist : BucketObjectStore.listBasebackups config callsOf storeOf sites = .ok result)
    {b : BaseBackupInfoFromBucket} (hb : b ∈ result) :
    ∃ leaf, b.name = OsPath.join b.sitePrefix ["basebackup"] ++ "/" ++ leaf ∧
      '/' ∉ leaf.data ∧
      (leaf ≠ "." → ∀ s u, b.requestBackupPreservation s u =
        (leaf ++ "_" ++ u.str,
          s.storeFileFromMemory (requestPath b.sitePrefix (leaf ++ "_" ++ u.str)) []
            [("preserve-backup", leaf), ("preserve-until", u.str)])) := by
  obtain ⟨leaf, hleaf⟩ :=
    Option.isSome_iff_exists.1 (BucketObjectStore.leafIn_of_mem_listBasebackups hlist hb)
  obtain ⟨hname, hne, hslash⟩ := leafIn_eq_some hleaf
  refine ⟨leaf, hname, hslash, fun hdot s u => ?_⟩
  have hbase : PurePosixPath.name b.name = leaf := by
    rw [hname]; exact PurePosixPath.name_append hne hslash hdot
  simp only [BaseBackupInfoFromBucket.requestBackupPreservation, requestName, requestMetadata,
    hbase]

theorem requestBackupPreservation_listedManifest :
    BucketObjectStore.listBasebackups siteConfig (fun _ => .returning) (fun _ => oneManifest)
        ["site_name"] = .ok [listedManifest] ∧
      ∃ leaf, listedManifest.name =
          OsPath.join listedManifest.sitePrefix ["basebackup"] ++ "/" ++ leaf ∧
        '/' ∉ leaf.data ∧
        (leaf ≠ "." → ∀ s u, listedManifest.requestBackupPreservation s u =
          (leaf ++ "_" ++ u.str,
            s.storeFileFromMemory (requestPath listedManifest.sitePrefix (leaf ++ "_" ++ u.str))
              [] [("preserve-backup", leaf), ("preserve-until", u.str)])) :=
  ⟨listBasebackups_oneManifest,
    requestBackupPreservation_listed listBasebackups_oneManifest (List.mem_singleton_self _)⟩

end Pghoard
