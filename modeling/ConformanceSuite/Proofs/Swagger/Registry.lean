import Mathlib.Data.List.Dedup
import ConformanceSuite.Proofs.Interleaving
import ConformanceSuite.Proofs.Text.Split
import ConformanceSuite.Swagger.Registry

/-!
# The registry under any schedule

A call for a contract looks it up, builds it from the files as they are if it is not kept, and then
keeps it unless another call has been faster. These steps may fall between those of other calls and
between changes of the files. Whatever the schedule, all answers for a key are the one contract that
is kept for it: `contracts_coherent`.
-/

namespace ConformanceSuite.ContractRegistry

/-! ### Calls under way -/

/-- How far a call for a contract has got: the contract has been asked for, was found missing, has
been built, or has been given or refused. -/
inductive Progress where
  | asked
  | missed
  | built (contract : BuiltContract)
  | answered (answer : Except ContractError BuiltContract)

/-- A call for the contract of a specification. -/
structure Call where
  name : String
  version : String
  progress : Progress

/-- The key of the contract that a call is for. -/
def Call.key (c : Call) : String × String := keyOf c.name c.version

/-- A contract that was built for a key, with the files that were there. -/
structure Build where
  key : String × String
  files : FileSystem
  built : BuiltContract

/-- A registry over files, with the builds so far and the keys under which contracts were to be
kept. -/
structure Ledger where
  registry : ContractRegistry
  files : FileSystem
  builds : List Build
  inserted : List (String × String)

/-- The next step of a call: to look its contract up, to build it, or to keep it. -/
def Call.step (c : Call) (l : Ledger) : Call × Ledger :=
  match c.progress with
  | .asked =>
    match l.registry.find? c.key with
    | some kept => ({ c with progress := .answered (.ok kept) }, l)
    | none => ({ c with progress := .missed }, l)
  | .missed =>
    match l.registry.build l.files c.key with
    | (.error e, registry) => ({ c with progress := .answered (.error e) }, { l with registry })
    | (.ok built, registry) => ({ c with progress := .built built },
        { l with registry, builds := l.builds ++ [⟨c.key, l.files, built⟩] })
  | .built built =>
    let (kept, registry) := l.registry.insertOrTake c.key built
    ({ c with progress := .answered (.ok kept) },
      { l with registry, inserted := l.inserted ++ [c.key] })
  | .answered _ => (c, l)

/-- Calls over a registry, and changes of its files. -/
def concurrent : Interleaving Ledger Call FileSystem := ⟨Call.step, fun files l => { l with files }⟩

/-- Calls that have just been made to a registry that keeps nothing. -/
def asking (dirs : List String) (files : FileSystem) (requests : List (String × String)) :
    Configuration Ledger Call :=
  ⟨⟨.ofDirs dirs, files, [], []⟩, requests.map fun r => ⟨r.1, r.2, .asked⟩⟩

/-- A call that nothing comes between is a call of the registry as a whole. -/
theorem alone_contract (name version : String) (l : Ledger) : ∃ builds inserted,
    concurrent.alone 3 (⟨name, version, .asked⟩, l) =
      (⟨name, version, .answered (l.registry.contract l.files name version).1⟩,
        ⟨(l.registry.contract l.files name version).2, l.files, builds, inserted⟩) := by
  cases hfind : l.registry.find? (keyOf name version) with
  | some kept =>
    exact ⟨l.builds, l.inserted,
      by simp [Interleaving.alone, concurrent, Call.step, Call.key, contract, hfind]⟩
  | none =>
    cases hbuild : l.registry.build l.files (keyOf name version) with
    | mk answer registry =>
      cases answer with
      | error e =>
        exact ⟨l.builds, l.inserted, by
          simp [Interleaving.alone, concurrent, Call.step, Call.key, contract, hfind, hbuild]⟩
      | ok built =>
        exact ⟨l.builds ++ [⟨keyOf name version, l.files, built⟩],
          l.inserted ++ [keyOf name version], by
          simp [Interleaving.alone, concurrent, Call.step, Call.key, contract, hfind, hbuild]⟩

/-- Three turns on end make a call as a whole, in the middle of any others. -/
theorem run_uninterrupted {c : Configuration Ledger Call} {position : Nat} {name version : String}
    (h : c.calls[position]? = some ⟨name, version, .asked⟩) : ∃ builds inserted,
    concurrent.run (List.replicate 3 (.call position)) c =
      ⟨⟨(c.shared.registry.contract c.shared.files name version).2, c.shared.files, builds,
          inserted⟩,
        c.calls.set position
          ⟨name, version,
            .answered (c.shared.registry.contract c.shared.files name version).1⟩⟩ := by
  obtain ⟨builds, inserted, halone⟩ := alone_contract name version c.shared
  exact ⟨builds, inserted, by rw [Interleaving.run_replicate h, halone]⟩

/-! ### Steps -/

/-- What a step of a call does. -/
inductive Steps (c : Call) (l : Ledger) : Call → Ledger → Prop
  | hit {kept : BuiltContract} (hprogress : c.progress = .asked)
      (hfind : l.registry.find? c.key = some kept) :
      Steps c l { c with progress := .answered (.ok kept) } l
  | miss (hprogress : c.progress = .asked) (hfind : l.registry.find? c.key = none) :
      Steps c l { c with progress := .missed } l
  | refused {e : ContractError} (hprogress : c.progress = .missed)
      (hbuild : SwaggerContract.forSpecification l.files l.registry.dirs c.key.1 c.key.2 =
        .error e) :
      Steps c l { c with progress := .answered (.error e) } l
  | built {contract : SwaggerContract} (hprogress : c.progress = .missed)
      (hbuild : SwaggerContract.forSpecification l.files l.registry.dirs c.key.1 c.key.2 =
        .ok contract) :
      Steps c l { c with progress := .built ⟨l.registry.builds, contract⟩ }
        { l with
          registry := { l.registry with builds := l.registry.builds + 1 }
          builds := l.builds ++ [⟨c.key, l.files, ⟨l.registry.builds, contract⟩⟩] }
  | taken {built kept : BuiltContract} (hprogress : c.progress = .built built)
      (hfind : l.registry.find? c.key = some kept) :
      Steps c l { c with progress := .answered (.ok kept) }
        { l with inserted := l.inserted ++ [c.key] }
  | kept {built : BuiltContract} (hprogress : c.progress = .built built)
      (hfind : l.registry.find? c.key = none) :
      Steps c l { c with progress := .answered (.ok built) }
        { l with
          registry := { l.registry with cache := l.registry.cache ++ [(c.key, built)] }
          inserted := l.inserted ++ [c.key] }
  | done {answer : Except ContractError BuiltContract} (hprogress : c.progress = .answered answer) :
      Steps c l c l

theorem steps (c : Call) (l : Ledger) : Steps c l (c.step l).1 (c.step l).2 := by
  unfold Call.step
  cases hprogress : c.progress with
  | asked =>
    cases hfind : l.registry.find? c.key with
    | some kept => exact .hit hprogress hfind
    | none => exact .miss hprogress hfind
  | missed =>
    cases hbuild : SwaggerContract.forSpecification l.files l.registry.dirs c.key.1 c.key.2 with
    | error e =>
      simp only [build, hbuild]
      exact .refused hprogress hbuild
    | ok contract =>
      simp only [build, hbuild]
      exact .built hprogress hbuild
  | built built =>
    cases hfind : l.registry.find? c.key with
    | some kept =>
      simp only [insertOrTake, hfind]
      exact .taken hprogress hfind
    | none =>
      simp only [insertOrTake, hfind]
      exact .kept hprogress hfind
  | answered answer => exact .done hprogress

section Step

variable {c c' : Call} {l l' : Ledger}

theorem Steps.key (h : Steps c l c' l') : c'.name = c.name ∧ c'.version = c.version := by
  cases h <;> exact ⟨rfl, rfl⟩

/-- An answered call stays as it is. -/
theorem Steps.answered {answer : Except ContractError BuiltContract} (h : Steps c l c' l')
    (hanswer : c.progress = .answered answer) : c' = c := by
  cases h with
  | done => rfl
  | hit hprogress | miss hprogress | refused hprogress | built hprogress | taken hprogress
  | kept hprogress => simp [hanswer] at hprogress

/-- The cache only grows at its end, and it grows only where a call is given what it has built. -/
theorem Steps.cache (h : Steps c l c' l') : l'.registry.cache = l.registry.cache ∨
    ∃ built, c'.progress = .answered (.ok built) ∧ l.registry.find? c.key = none ∧
      l'.registry.cache = l.registry.cache ++ [(c.key, built)] := by
  cases h with
  | @kept built hprogress hfind => exact .inr ⟨built, rfl, hfind, rfl⟩
  | hit | miss | refused | built | taken | done => exact .inl rfl

/-- What is kept under a key stays kept. -/
theorem Steps.find? (h : Steps c l c' l') {key : String × String} {kept : BuiltContract}
    (hkept : l.registry.find? key = some kept) : l'.registry.find? key = some kept := by
  rw [ContractRegistry.find?] at hkept ⊢
  rcases h.cache with hsame | ⟨built, -, -, hgrown⟩
  · rw [hsame, hkept]
  · rw [hgrown, List.lookup_append, hkept, Option.some_or]

theorem Steps.builds (h : Steps c l c' l') : ∀ b ∈ l.builds, b ∈ l'.builds := by
  cases h with
  | built => exact fun b hb => List.mem_append_left _ hb
  | hit | miss | refused | taken | kept | done => exact fun b hb => hb

/-- The steps that a call may still need. -/
def Call.remaining (c : Call) : Nat :=
  match c.progress with
  | .asked => 3
  | .missed => 2
  | .built _ => 1
  | .answered _ => 0

theorem Steps.remaining (h : Steps c l c' l') : c'.remaining ≤ c.remaining - 1 := by
  cases h with
  | hit hprogress | miss hprogress | refused hprogress | built hprogress | taken hprogress
  | kept hprogress | done hprogress => simp [Call.remaining, hprogress]

end Step

/-! ### What every schedule keeps -/

/-- Files that were there at some time of a schedule. -/
def Seen (files : FileSystem) (schedule : List (Turn FileSystem)) (seen : FileSystem) : Prop :=
  seen = files ∨ .world seen ∈ schedule

/-- A ledger whose registry keeps what was built, each contract from the files at some time, with
numbers of their own, and one for each key under which contracts were to be kept. -/
structure Ledger.Sound (dirs : List String) (files : FileSystem)
    (schedule : List (Turn FileSystem)) (l : Ledger) : Prop where
  directories : l.registry.dirs = dirs
  present : Seen files schedule l.files
  serials : l.builds.map (·.built.serial) = List.range l.registry.builds
  builds : ∀ b ∈ l.builds, Seen files schedule b.files ∧
    SwaggerContract.forSpecification b.files dirs b.key.1 b.key.2 = .ok b.built.contract
  cached : ∀ e ∈ l.registry.cache, ∃ b ∈ l.builds, b.key = e.1 ∧ b.built = e.2
  nodup : (l.registry.cache.map Prod.fst).Nodup
  inserted : ∀ key, key ∈ l.registry.cache.map Prod.fst ↔ key ∈ l.inserted

/-- A call fits a ledger: what it has built is one of the builds for its key, and what it was given
is kept under its key. -/
def Call.Fits (l : Ledger) (c : Call) : Prop :=
  (∀ built, c.progress = .built built → ∃ b ∈ l.builds, b.key = c.key ∧ b.built = built) ∧
  ∀ kept, c.progress = .answered (.ok kept) → l.registry.find? c.key = some kept

section Keeps

variable {dirs : List String} {files : FileSystem} {schedule : List (Turn FileSystem)}
  {c c' other : Call} {l l' : Ledger}

/-- A key is kept exactly if it has an entry. -/
theorem find?_eq_none_iff {r : ContractRegistry} {key : String × String} :
    r.find? key = none ↔ key ∉ r.cache.map Prod.fst := by
  rw [ContractRegistry.find?, List.lookup_eq_none_iff, List.mem_map]
  constructor
  · rintro h ⟨e, he, rfl⟩
    simpa using h e he
  · exact fun h e he => bne_iff_ne.2 fun heq => h ⟨e, he, heq.symm⟩

theorem mem_cache_of_find? {r : ContractRegistry} {key : String × String} {kept : BuiltContract}
    (h : r.find? key = some kept) : (key, kept) ∈ r.cache := by
  obtain ⟨front, back, hcache, -⟩ := List.lookup_eq_some_iff.1 h
  simp [hcache]

theorem Steps.sound (h : Steps c l c' l') (hl : l.Sound dirs files schedule) (hc : c.Fits l) :
    l'.Sound dirs files schedule := by
  cases h with
  | hit | miss | refused | done => exact hl
  | @built contract hprogress hbuild =>
    refine ⟨hl.directories, hl.present, ?_, fun b hb => ?_, fun e he => ?_, hl.nodup, hl.inserted⟩
    · simp [hl.serials, List.range_succ]
    · rcases List.mem_append.1 hb with hb | hb
      · exact hl.builds b hb
      · rw [List.mem_singleton.1 hb]
        exact ⟨hl.present, hl.directories ▸ hbuild⟩
    · obtain ⟨b, hb, heq⟩ := hl.cached e he
      exact ⟨b, List.mem_append_left _ hb, heq⟩
  | @taken built kept hprogress hfind =>
    refine ⟨hl.directories, hl.present, hl.serials, hl.builds, hl.cached, hl.nodup, fun key => ?_⟩
    have hmem : c.key ∈ l.inserted :=
      (hl.inserted _).1 (List.mem_map_of_mem (f := Prod.fst) (mem_cache_of_find? hfind))
    rw [hl.inserted, List.mem_append, List.mem_singleton]
    exact ⟨.inl, fun h => h.elim id fun heq => heq ▸ hmem⟩
  | @kept built hprogress hfind =>
    have hnew := find?_eq_none_iff.1 hfind
    refine ⟨hl.directories, hl.present, hl.serials, hl.builds, fun e he => ?_, ?_, fun key => ?_⟩
    · rcases List.mem_append.1 he with he | he
      · exact hl.cached e he
      · rw [List.mem_singleton.1 he]
        exact hc.1 built hprogress
    · rw [List.map_append, List.map_singleton, List.nodup_append]
      refine ⟨hl.nodup, List.nodup_singleton _, fun key hkey key' hkey' heq => ?_⟩
      rw [heq, List.mem_singleton.1 hkey'] at hkey
      exact hnew hkey
    · simp only [List.map_append, List.map_singleton, List.mem_append, hl.inserted]

theorem Call.Fits.mono (h : other.Fits l) (hstep : Steps c l c' l') : other.Fits l' := by
  refine ⟨fun built hbuilt => ?_, fun kept hkept => hstep.find? (h.2 kept hkept)⟩
  obtain ⟨b, hb, heq⟩ := h.1 built hbuilt
  exact ⟨b, hstep.builds b hb, heq⟩

theorem Steps.fits (h : Steps c l c' l') (hc : c.Fits l) : c'.Fits l' := by
  cases h with
  | hit hprogress hfind => exact ⟨nofun, fun kept heq => by cases heq; exact hfind⟩
  | miss | refused => exact ⟨nofun, nofun⟩
  | @built contract hprogress hbuild =>
    refine ⟨fun built heq => ?_, nofun⟩
    cases heq
    exact ⟨_, List.mem_append_right _ (List.mem_singleton.2 rfl), rfl, rfl⟩
  | taken hprogress hfind => exact ⟨nofun, fun kept heq => by cases heq; exact hfind⟩
  | @kept built hprogress hfind =>
    refine ⟨nofun, fun kept heq => ?_⟩
    cases heq
    change (l.registry.cache ++ [(c.key, built)]).lookup c.key = some built
    rw [ContractRegistry.find?] at hfind
    rw [List.lookup_append, hfind, Option.none_or, List.lookup_cons_self]
  | done => exact hc

theorem concurrent_keeps :
    concurrent.Keeps schedule (Ledger.Sound dirs files schedule) fun l c => c.Fits l where
  shared l c hl hc := (steps c l).sound hl hc
  own l c _ hc := (steps c l).fits hc
  others l c _ _ _ hother := hother.mono (steps c l)
  world _ _ hchange hl :=
    ⟨⟨hl.directories, .inr hchange, hl.serials, hl.builds, hl.cached, hl.nodup, hl.inserted⟩,
      fun _ hc => hc⟩

/-- After a schedule the ledger is sound and every call fits it. -/
theorem sound_run (dirs : List String) (files : FileSystem) (requests : List (String × String))
    (schedule : List (Turn FileSystem)) :
    (concurrent.run schedule (asking dirs files requests)).shared.Sound dirs files schedule ∧
      ∀ c ∈ (concurrent.run schedule (asking dirs files requests)).calls,
        c.Fits (concurrent.run schedule (asking dirs files requests)).shared := by
  refine concurrent_keeps.run ?_ fun c hc => ?_
  · exact ⟨rfl, .inl rfl, rfl, by simp [asking], by simp [asking, ofDirs], by simp [asking, ofDirs],
      by simp [asking, ofDirs]⟩
  · obtain ⟨request, -, rfl⟩ := List.mem_map.1 hc
    exact ⟨nofun, nofun⟩

end Keeps

/-! ### What stays -/

section Stays

variable {c : Configuration Ledger Call} {schedule : List (Turn FileSystem)} {position : Nat}
  {call : Call}

/-- What is kept stays kept. -/
theorem find?_run {key : String × String} {kept : BuiltContract}
    (h : c.shared.registry.find? key = some kept) :
    (concurrent.run schedule c).shared.registry.find? key = some kept := by
  refine Interleaving.run_induction
    (P := fun c : Configuration Ledger Call => c.shared.registry.find? key = some kept) h
    fun c t _ hkept => ?_
  rcases concurrent.turn_cases c t with ⟨_, call, -, -, hturn⟩ | hturn | ⟨_, -, hturn⟩ <;>
    rw [hturn]
  · exact (steps call c.shared).find? hkept
  · exact hkept
  · exact hkept

/-- A call that has been answered stays answered. -/
theorem answered_run {answer : Except ContractError BuiltContract}
    (h : c.calls[position]? = some call) (hanswer : call.progress = .answered answer) :
    (concurrent.run schedule c).calls[position]? = some call := by
  refine Interleaving.run_induction (P := fun c => c.calls[position]? = some call) h
    fun c t _ hcall => ?_
  rcases concurrent.turn_cases c t with ⟨i, other, -, hother, hturn⟩ | hturn | ⟨_, -, hturn⟩ <;>
    rw [hturn]
  · by_cases hi : i = position
    · subst hi
      obtain rfl : other = call := Option.some.inj (hother.symm.trans hcall)
      have hsame : (concurrent.advance other c.shared).1 = other :=
        (steps other c.shared).answered hanswer
      rw [hsame, Interleaving.set_of_getElem? hcall, hcall]
    · rw [List.getElem?_set_ne hi, hcall]
  · exact hcall
  · exact hcall

/-- The turns of a call that is refused in the end leave the cache alone. -/
theorem cache_of_refused {e : ContractError}
    (h : (concurrent.run (.call position :: schedule) c).calls[position]? = some call)
    (hrefused : call.progress = .answered (.error e)) :
    (concurrent.turn c (.call position)).shared.registry.cache = c.shared.registry.cache := by
  cases hcall : c.calls[position]? with
  | none => rw [Interleaving.turn_none hcall]
  | some before =>
    rw [Interleaving.run_cons, Interleaving.turn_call hcall] at h
    rw [Interleaving.turn_call hcall]
    rcases (steps before c.shared).cache with hsame | ⟨built, hgiven, -, -⟩
    · exact hsame
    -- where the cache grows the call is given a contract, which it would have kept
    · obtain ⟨hlt, -⟩ := List.getElem?_eq_some_iff.1 hcall
      have hset : (c.calls.set position (before.step c.shared).1)[position]? =
          some (before.step c.shared).1 := List.getElem?_set_self hlt
      rw [answered_run hset hgiven] at h
      obtain rfl := Option.some.inj h
      rw [hgiven] at hrefused
      cases hrefused

/-- Three turns are enough for a call to be answered, whatever falls between them. -/
theorem answered_of_turns (hcall : c.calls[position]? = some call)
    (hturns : 3 ≤ schedule.countP (Turn.isCall position)) :
    ∃ after, (concurrent.run schedule c).calls[position]? = some after ∧
      ∃ answer, after.progress = .answered answer := by
  have hstep : ∀ call l, (concurrent.advance call l).1.remaining ≤ call.remaining - 1 :=
    fun call l => (steps call l).remaining
  obtain ⟨after, hafter, hle⟩ := Interleaving.measure_run hstep hcall
  refine ⟨after, hafter, ?_⟩
  have hmost : call.remaining ≤ 3 := by
    unfold Call.remaining
    split <;> omega
  have hnone : after.remaining = 0 := by omega
  cases hprogress : after.progress with
  | answered answer => exact ⟨answer, rfl⟩
  | asked | missed | built => simp [Call.remaining, hprogress] at hnone

end Stays

/-! ### Where contracts come from -/

/-- What is built for a specification is the contract of a document of its title and version. -/
theorem amongFiles_eq_ok {files : FileSystem} {name version : String} {paths : List String}
    {contract : SwaggerContract}
    (h : SwaggerContract.amongFiles files name version paths = .ok contract) :
    ∃ path ∈ paths, ∃ d, SwaggerDocument.load files path = .ok d ∧ d.title = name ∧
      d.version = version ∧ SwaggerContract.ofDocument d = .ok contract := by
  induction paths with
  | nil => cases h
  | cons path rest ih =>
    rw [SwaggerContract.amongFiles] at h
    cases hload : SwaggerDocument.load files path with
    | error e => simp [hload] at h
    | ok d =>
      rw [hload] at h
      by_cases hmatch : d.version = version ∧ d.title = name
      · exact ⟨path, List.mem_cons_self, d, hload, hmatch.2, hmatch.1, by simpa [hmatch] using h⟩
      · obtain ⟨path', hpath, hd⟩ := ih (by simpa [hmatch] using h)
        exact ⟨path', List.mem_cons_of_mem _ hpath, hd⟩

/-- A contract comes from a document: some files, seen at some time of a schedule, had a document of
the title and the version of a key, and the contract is that of the document. -/
def ComesFrom (files : FileSystem) (schedule : List (Turn FileSystem)) (key : String × String)
    (contract : SwaggerContract) : Prop :=
  ∃ seen path d, Seen files schedule seen ∧ SwaggerDocument.load seen path = .ok d ∧
    d.title = key.1 ∧ d.version = key.2 ∧ SwaggerContract.ofDocument d = .ok contract

section Sound

variable {dirs : List String} {files : FileSystem} {schedule : List (Turn FileSystem)}
  {l : Ledger}

theorem Ledger.Sound.comesFrom (h : l.Sound dirs files schedule) {key : String × String}
    {kept : BuiltContract} (hkept : l.registry.find? key = some kept) :
    ComesFrom files schedule key kept.contract := by
  obtain ⟨b, hb, rfl, rfl⟩ := h.cached _ (mem_cache_of_find? hkept)
  obtain ⟨hseen, hbuild⟩ := h.builds b hb
  unfold SwaggerContract.forSpecification at hbuild
  split at hbuild
  · cases hbuild
  · obtain ⟨path, -, d, hload, htitle, hversion, hcontract⟩ := amongFiles_eq_ok hbuild
    exact ⟨b.files, path, d, hseen, hload, htitle, hversion, hcontract⟩

/-- Builds of one number are one build. -/
theorem Ledger.Sound.build_unique (h : l.Sound dirs files schedule) {b b' : Build}
    (hb : b ∈ l.builds) (hb' : b' ∈ l.builds) (hserial : b.built.serial = b'.built.serial) :
    b = b' := by
  have hnodup : (l.builds.map (·.built.serial)).Nodup := h.serials ▸ List.nodup_range
  exact List.inj_on_of_nodup_map hnodup hb hb' hserial

/-- There are as many entries as there are keys under which contracts were to be kept. -/
theorem Ledger.Sound.size_eq (h : l.Sound dirs files schedule) :
    l.registry.size = l.inserted.dedup.length := by
  have hperm : (l.registry.cache.map Prod.fst).Perm l.inserted.dedup :=
    (List.perm_ext_iff_of_nodup h.nodup (List.nodup_dedup _)).2 fun key => by
      rw [List.mem_dedup, h.inserted]
  rw [← hperm.length_eq, List.length_map, size]

end Sound

/-! ### Versions -/

theorem fullVersion_of_two {version : String}
    (h : (Text.splitAll '.' version.toList).length = 2) :
    fullVersion version = version ++ ".0" := by
  rw [fullVersion, if_pos h]

/-- A version with one more component has one more part. -/
theorem length_splitAll_append_zero (version : String) :
    (Text.splitAll '.' (version ++ ".0").toList).length =
      (Text.splitAll '.' version.toList).length + 1 := by
  simp [Text.length_splitAll, String.toList_append]

/-- A full version is its own full version. -/
theorem fullVersion_idem (version : String) :
    fullVersion (fullVersion version) = fullVersion version := by
  by_cases h : (Text.splitAll '.' version.toList).length = 2
  · rw [fullVersion_of_two h, fullVersion, length_splitAll_append_zero, h]
    rfl
  · rw [fullVersion, fullVersion, if_neg h, if_neg h]

theorem keyOf_append_zero (name : String) {version : String}
    (h : (Text.splitAll '.' version.toList).length = 2) :
    keyOf name (version ++ ".0") = keyOf name version := by
  rw [keyOf, keyOf, ← fullVersion_of_two h, fullVersion_idem]

/-! ### Coherence -/

/-- Calls over a registry agree: each contract that was given is the one that is kept for its key,
it comes from a document, no two keys share it, and the number of contracts kept is that of the keys
under which contracts were to be kept. -/
structure Coherent (files : FileSystem) (schedule : List (Turn FileSystem))
    (c : Configuration Ledger Call) : Prop where
  given : ∀ call ∈ c.calls, ∀ contract, call.progress = .answered (.ok contract) →
    c.shared.registry.find? call.key = some contract
  agree : ∀ call ∈ c.calls, ∀ other ∈ c.calls, call.key = other.key → ∀ contract contract',
    call.progress = .answered (.ok contract) → other.progress = .answered (.ok contract') →
    contract = contract'
  origin : ∀ key kept, c.shared.registry.find? key = some kept →
    ComesFrom files schedule key kept.contract
  distinct : ∀ key kept key' kept', c.shared.registry.find? key = some kept →
    c.shared.registry.find? key' = some kept' → kept.serial = kept'.serial →
    key = key' ∧ kept = kept'
  size : c.shared.registry.size = c.shared.inserted.dedup.length

/-- However the steps of calls for contracts and changes of the files fall, the calls agree with
what is kept and with each other; what is kept stays kept, a call that is refused changes nothing
about it, and a version of two components stands for the one with a zero behind it. -/
theorem contracts_coherent (dirs : List String) (files : FileSystem)
    (requests : List (String × String)) (schedule : List (Turn FileSystem)) :
    let start := asking dirs files requests
    let after := concurrent.run schedule start
    after.calls.map (fun c => (c.name, c.version)) = requests ∧
    Coherent files schedule after ∧
    (∀ front back, schedule = front ++ back → ∀ key kept,
      (concurrent.run front start).shared.registry.find? key = some kept →
      after.shared.registry.find? key = some kept) ∧
    (∀ position call e, after.calls[position]? = some call →
      call.progress = .answered (.error e) →
      ∀ front back, schedule = front ++ .call position :: back →
      (concurrent.run (front ++ [.call position]) start).shared.registry.cache =
        (concurrent.run front start).shared.registry.cache) ∧
    (∀ version, fullVersion (fullVersion version) = fullVersion version) ∧
    ∀ name version, (Text.splitAll '.' version.toList).length = 2 →
      keyOf name (version ++ ".0") = keyOf name version := by
  intro start after
  obtain ⟨hsound, hfits⟩ := sound_run dirs files requests schedule
  refine ⟨?_, ⟨fun call hcall => (hfits call hcall).2, ?_, fun _ _ => hsound.comesFrom, ?_,
    hsound.size_eq⟩, ?_, ?_, fullVersion_idem, fun name _ => keyOf_append_zero name⟩
  · change (concurrent.run schedule (asking dirs files requests)).calls.map _ = requests
    rw [Interleaving.map_calls_run fun call l => Prod.ext (steps call l).key.1 (steps call l).key.2]
    simp [asking, Function.comp_def]
  · intro call hcall other hother hkey contract contract' hgiven hgiven'
    have hkept := (hfits call hcall).2 contract hgiven
    rw [hkey, (hfits other hother).2 contract' hgiven'] at hkept
    exact (Option.some.inj hkept).symm
  · intro key kept key' kept' hkept hkept' hserial
    obtain ⟨b, hb, rfl, rfl⟩ := hsound.cached _ (mem_cache_of_find? hkept)
    obtain ⟨b', hb', rfl, rfl⟩ := hsound.cached _ (mem_cache_of_find? hkept')
    obtain rfl := hsound.build_unique hb hb' hserial
    exact ⟨rfl, rfl⟩
  · rintro front back rfl key kept hkept
    change (concurrent.run (front ++ back) start).shared.registry.find? key = some kept
    rw [Interleaving.run_append]
    exact find?_run hkept
  · rintro position call e hcall hrefused front back rfl
    change (concurrent.run (front ++ .call position :: back) start).calls[position]? = some call
      at hcall
    rw [Interleaving.run_append] at hcall ⊢
    exact cache_of_refused hcall hrefused

end ConformanceSuite.ContractRegistry
