/-
This file is about the channels that are closed because their target has stalled.
-/

import Warpgate.Ssh.Input

namespace Warpgate.Ssh.Input

open Handlers List Nat State

/-! ### Channels that are stalled -/

@[mk_iff]
structure StalledAt (stall : Duration) (state : State) (key : Nat) : Prop where
  opened : ∃ since ∈ (state.inputs key).live, since + stall ≤ state.clock
  unclosed : (state.inputs key).closed = false
  held : ∃ input ∈ state.held, input.channel = key ∧ input.since + stall ≤ state.clock
  untaken : ∀ moment ∈ (state.inputs key).freedAt, moment + stall ≤ state.clock

def Stalled (stall : Duration) (state : State) (number : ChannelId) : Prop :=
  ∃ key, state.entries.lookup number = some key ∧ StalledAt stall state key

instance (stall : Duration) (state : State) (key : Nat) : Decidable (StalledAt stall state key) :=
  decidable_of_iff' _ (stalledAt_iff stall state key)

instance (stall : Duration) (state : State) (number : ChannelId) :
    Decidable (Stalled stall state number) :=
  decidable_of_iff (∃ key ∈ state.entries.lookup number, StalledAt stall state key) Iff.rfl

structure Spares (key : Nat) (state later : State) : Prop where
  clock : state.clock ≤ later.clock
  live : ∀ since ∈ (state.inputs key).live, since ∈ (later.inputs key).live
  closed : (later.inputs key).closed = (state.inputs key).closed
  held : ∀ input ∈ state.held, input.channel = key → input ∈ later.held
  freedAt : (later.inputs key).freedAt = (state.inputs key).freedAt

section Stalling

variable {stall : Duration} {s later : State} {req : Request} {k : Nat} {taken : Nat → Nat}
  {again : Option Request} {rest : List ChannelId} {timer : Timer} {stage : Stage}
  {res : State × Option Told} {ev : Event}

theorem StalledAt.spares (stalled : StalledAt stall s k) (spares : Spares k s later) :
    StalledAt stall later k where
  opened := by
    obtain ⟨since, isLive, early⟩ := stalled.opened
    exact ⟨since, spares.live since isLive, early.trans spares.clock⟩
  unclosed := spares.closed.trans stalled.unclosed
  held := by
    obtain ⟨input, isHeld, here, early⟩ := stalled.held
    exact ⟨input, spares.held input isHeld here, here, early.trans spares.clock⟩
  untaken moment isFreed := by
    rw [spares.freedAt] at isFreed
    exact (stalled.untaken moment isFreed).trans spares.clock

theorem Spares.of_inputs (clock : s.clock ≤ later.clock)
    (inputs : later.inputs k = s.inputs k) (held : later.held = s.held) : Spares k s later where
  clock := clock
  live since isLive := by rwa [inputs]
  closed := by rw [inputs]
  held input isHeld _ := by rwa [held]
  freedAt := by rw [inputs]

theorem inputs_targetClosed (bal : Balanced s taken) {closed n : ChannelId}
    (apart : n ≠ closed) (found : s.entries.lookup n = some k) :
    (s.targetClosed closed).inputs k = s.inputs k := by
  rw [targetClosed]
  split
  case h_2 => rfl
  case h_1 other isOther =>
    refine inputs_modify_other s (fun same => apart ?_) _
    have named := (bal.named n k found).2
    rw [same, (bal.named closed other isOther).2] at named
    exact (Option.some.inj named).symm

theorem held_targetClosed (s : State) (n : ChannelId) : (s.targetClosed n).held = s.held := by
  rw [targetClosed]
  split <;> rfl

theorem clock_targetClosed (s : State) (n : ChannelId) : (s.targetClosed n).clock = s.clock := by
  rw [targetClosed]
  split <;> rfl

def Holds (state : State) (key : Nat) : Prop :=
  (state.inputs key).live.isSome = true ∧ (state.inputs key).closed = false ∧
    ∃ input ∈ state.held, input.channel = key ∧ 0 < input.share

instance (state : State) (key : Nat) : Decidable (Holds state key) :=
  inferInstanceAs (Decidable (_ ∧ _))

theorem lookup_of_mem {e : Sigma fun _ : ChannelId => Nat}
    (mem : e ∈ s.entries.entries) : s.entries.lookup e.1 = some e.2 :=
  AList.mem_lookup_iff.mpr mem

theorem stuck_eq (bal : Balanced s taken) (except : ChannelId) :
    s.stuckHoldersExcept except =
      (s.entries.entries.filter fun e => e.1 ≠ except ∧ (s.inputs e.2).live.isSome ∧
          (s.inputs e.2).closed = false ∧
          (s.inputs e.2).budget.room < channelInputBudget).map Sigma.fst := by
  rw [stuckHoldersExcept, holdersExcept, filterMap_map, ← filterMap_eq_map]
  refine filterMap_congr fun e mem => ?_
  have listed := mem_of_mem_filter mem
  exact (bal.named e.1 e.2 (lookup_of_mem listed)).2

theorem mem_stuck (bal : Balanced s fun _ => 0) (except n : ChannelId) :
    n ∈ s.stuckHoldersExcept except ↔
      ∃ k, s.entries.lookup n = some k ∧ n ≠ except ∧ Holds s k := by
  have holds : ∀ k, (s.inputs k).budget.room < channelInputBudget ↔
      ∃ input ∈ s.held, input.channel = k ∧ 0 < input.share := by
    intro k
    have all := bal.channel k
    constructor
    · intro short
      exact exists_held (by omega)
    · grind [shares_pos]
  rw [stuck_eq bal, mem_map]
  constructor
  · rintro ⟨e, mem, rfl⟩
    obtain ⟨listed, chosen⟩ := mem_filter.mp mem
    obtain ⟨apart, live, unclosed, short⟩ := of_decide_eq_true chosen
    exact ⟨e.2, lookup_of_mem listed, apart, live, unclosed, (holds e.2).mp short⟩
  · rintro ⟨k, found, apart, live, unclosed, held⟩
    refine ⟨⟨n, k⟩, mem_filter.mpr ⟨AList.mem_lookup_iff.mp found, ?_⟩, rfl⟩
    exact decide_eq_true ⟨apart, live, unclosed, (holds k).mpr held⟩

def Orderly (stall : Duration) (state : State) (event : Event) : Prop :=
  match event, state.handler with
  | .poll, .waiting request (.connection timer) =>
    timer.Due state.connection request.wanted stall state.clock →
    (state.inputs request.key).closed = false →
    (∃ entry ∈ state.entries.entries, entry.1 ≠ request.channel ∧ Holds state entry.2) ∧
    ∀ entry ∈ state.entries.entries, entry.1 ≠ request.channel → Holds state entry.2 →
      ∀ since ∈ (state.inputs entry.2).live, since + stall ≤ state.clock
  | .drop index, .closing rest _ =>
    ∀ input ∈ state.held[index]?, ∀ number ∈ rest, state.entries.lookup number ≠ some input.channel
  | .targetClosed number, .closing rest _ => number ∉ rest
  | _, _ => True

instance (stall : Duration) (state : State) (event : Event) :
    Decidable (Orderly stall state event) := by
  unfold Orderly
  split <;> infer_instance

/-! ### Closing them -/

def Doomed (stall : Duration) (state : State) : Handler → Prop
  | .closing rest _ => rest.Nodup ∧ ∀ number ∈ rest, Stalled stall state number
  | _ => True

structure Fair (stall : Duration) (state : State) (result : State × Option Told) : Prop where
  told : ∀ number, result.2 = some (.stalled number) → Stalled stall state number
  doomed : Doomed stall result.1 result.1.handler

theorem fair_closeStalled (bal : Balanced later taken) {stuck : ChannelId}
    (first : Stalled stall s stuck) (distinct : (stuck :: rest).Nodup)
    (others : ∀ n ∈ rest, Stalled stall later n) :
    Fair stall s (closeStalled later stuck rest again) := by
  refine ⟨fun n isTold => ?_, (nodup_cons.mp distinct).2, fun n mem => ?_⟩
  · cases isTold
    exact first
  · obtain ⟨k, found, stalled⟩ := others n mem
    have apart : n ≠ stuck := by
      rintro rfl
      exact (nodup_cons.mp distinct).1 mem
    refine ⟨k, ?_, stalled.spares (Spares.of_inputs ?_ ?_ ?_)⟩
    · show (later.targetClosed stuck).entries.lookup n = some k
      rw [(aside_targetClosed later stuck).entries]
      exact found
    · exact le_of_eq (clock_targetClosed later stuck).symm
    · exact inputs_targetClosed bal apart found
    · exact held_targetClosed later stuck

theorem stalled_of_due (bal : Balanced s fun _ => 0)
    (found : s.entries.lookup req.channel = some req.key)
    (unclosed : (s.inputs req.key).closed = false)
    (sound : (Stage.channel timer).Sound stall s req.key)
    (due : timer.Due (s.inputs req.key).budget req.wanted stall s.clock) :
    Stalled stall s req.channel := by
  obtain ⟨short, -, isRunning, seen, isOver⟩ := due
  refine ⟨req.key, found, ?_, unclosed, ?_, fun mom isFreed => ?_⟩
  · obtain ⟨since, isLive, early⟩ := sound.live isRunning
    exact ⟨since, isLive, early.trans isOver⟩
  · have all := bal.channel req.key
    have bounded : req.wanted ≤ channelInputBudget := min_le_right _ _
    have taken : 0 < shares s.held req.key := by omega
    obtain ⟨input, isHeld, here, -⟩ := exists_held taken
    exact ⟨input, isHeld, here, (sound.held input isHeld).trans isOver⟩
  · exact (sound.freed seen.symm mom isFreed).trans isOver

theorem stalled_of_connection_due {n : ChannelId}
    (found : s.entries.lookup n = some k) (holds : Holds s k)
    (stale : ∀ since ∈ (s.inputs k).live, since + stall ≤ s.clock)
    (sound : (Stage.connection timer).Sound stall s req.key)
    (due : timer.Due s.connection req.wanted stall s.clock) : Stalled stall s n := by
  obtain ⟨-, -, isRunning, seen, isOver⟩ := due
  obtain ⟨live, unclosed, input, isHeld, here, -⟩ := holds
  refine ⟨k, found, ?_, unclosed, ⟨input, isHeld, here, (sound.held input isHeld).trans isOver⟩,
    fun mom isFreed => (sound.freed seen.symm mom ⟨k, isFreed⟩).trans isOver⟩
  obtain ⟨since, isLive⟩ := Option.isSome_iff_exists.mp live
  exact ⟨since, isLive, stale since isLive⟩

theorem inputs_giveBack (s : State) (k share other : Nat) :
    ((s.giveBack k share).inputs other).live = (s.inputs other).live ∧
      ((s.giveBack k share).inputs other).closed = (s.inputs other).closed ∧
      ((s.giveBack k share).inputs other).freedAt = (s.inputs other).freedAt := by
  grind [giveBack, inputs_modify_self, inputs_modify_other]

theorem spares_giveBack (s : State) (k share other : Nat) :
    Spares other s (s.giveBack k share) := by
  obtain ⟨live, closed, freedAt⟩ := inputs_giveBack s k share other
  exact ⟨le_refl _, fun since isLive => by rwa [live], closed, fun _ isHeld _ => isHeld, freedAt⟩

theorem holds_giveBack (s : State) (k share other : Nat) :
    Holds (s.giveBack k share) other ↔ Holds s other := by
  obtain ⟨live, closed, -⟩ := inputs_giveBack s k share other
  rw [Holds, live, closed]
  exact Iff.rfl

theorem fair_closeHolders (bal : Balanced s (only req.key req.wanted)) (inUse : req.key < s.made)
    (sound : (Stage.connection timer).Sound stall s req.key)
    (due : timer.Due s.connection req.wanted stall s.clock)
    (blamed : ∃ e ∈ s.entries.entries, e.1 ≠ req.channel ∧ Holds s e.2)
    (opened : ∀ e ∈ s.entries.entries, e.1 ≠ req.channel → Holds s e.2 →
      ∀ since ∈ (s.inputs e.2).live, since + stall ≤ s.clock) :
    Fair stall s (closeHolders (s.giveBack req.key req.wanted) req) := by
  have free := bal.giveBack inUse
  have stalled : ∀ n ∈ (s.giveBack req.key req.wanted).stuckHoldersExcept
      req.channel, Stalled stall s n := by
    intro n mem
    obtain ⟨k, found, apart, holds⟩ := (mem_stuck free _ _).mp mem
    have holds := (holds_giveBack s _ _ k).mp holds
    exact stalled_of_connection_due found holds
      (opened ⟨n, k⟩ (AList.mem_lookup_iff.mp found) apart holds) sound due
  have distinct : ((s.giveBack req.key req.wanted).stuckHoldersExcept req.channel).Nodup := by
    rw [stuck_eq free]
    exact (filter_sublist.map Sigma.fst).nodup s.entries.keys_nodup
  rw [closeHolders]
  split
  case h_1 none_stuck =>
    obtain ⟨e, listed, apart, holds⟩ := blamed
    have mem := (mem_stuck free req.channel e.1).mpr
      ⟨e.2, lookup_of_mem listed, apart, (holds_giveBack s _ _ e.2).mpr holds⟩
    rw [none_stuck] at mem
    cases mem
  case h_2 stuck rest isStuck =>
    rw [isStuck] at stalled distinct
    refine fair_closeStalled free (stalled stuck (.head _)) distinct fun n mem => ?_
    obtain ⟨k, found, stalled⟩ := stalled n (.tail _ mem)
    exact ⟨k, found, stalled.spares (spares_giveBack s _ _ k)⟩

theorem Polled.fair (polled : Polled stall s req stage res) (bal : Balanced s (stage.taken req))
    (found : s.entries.lookup req.channel = some req.key) (sound : stage.Sound stall s req.key)
    (orderly : ∀ timer, stage = .connection timer →
      timer.Due s.connection req.wanted stall s.clock → (s.inputs req.key).closed = false →
      (∃ e ∈ s.entries.entries, e.1 ≠ req.channel ∧ Holds s e.2) ∧
      ∀ e ∈ s.entries.entries, e.1 ≠ req.channel → Holds s e.2 →
        ∀ since ∈ (s.inputs e.2).live, since + stall ≤ s.clock) : Fair stall s res := by
  cases polled with
  | delivered later input idle entries | pending later next waiting entries held sound
  | dropped later idle entries held => exact ⟨nofun, trivial⟩
  | stalled timer isChannel unclosed due =>
    subst isChannel
    exact fair_closeStalled bal (stalled_of_due bal found unclosed sound due)
      (nodup_singleton _) nofun
  | connectionStalled timer isConnection unclosed due =>
    subst isConnection
    have inUse := (bal.named req.channel req.key found).1
    obtain ⟨blamed, opened⟩ := orderly timer rfl due unclosed
    exact fair_closeHolders bal inUse sound due blamed opened

theorem fair_startWait (pre : State) (bal : Balanced s fun _ => 0)
    (found : s.entries.lookup req.channel = some req.key) :
    Fair stall pre (startWait stall s req) := by
  have inUse := (bal.named req.channel req.key found).1
  have polled : Polled stall s req _ (startWait stall s req) := polled_start bal inUse
  generalize startWait stall s req = res at polled ⊢
  cases polled with
  | delivered later input idle entries | pending later next waiting entries held sound
  | dropped later idle entries held => exact ⟨nofun, trivial⟩
  | stalled timer isChannel unclosed due =>
    cases isChannel
    have ahead : s.clock < s.clock + stall := Nat.lt_add_of_pos_right (Nat.pos_of_ne_zero due.2.1)
    exact absurd due.2.2.2.2 (Nat.not_le.mpr ahead)
  | connectionStalled timer isConnection unclosed due => cases isConnection

theorem fair_serve (sound : Sound stall s) (isIdle : s.handler = .idle) (ev : Event) :
    Fair stall s (serve stall s ev) := by
  have bal : Balanced s fun _ => 0 := (sound.known isIdle).1
  have idle : ∀ {later : State}, later.handler = .idle → Doomed stall later later.handler := by
    intro later isIdle
    rw [isIdle]
    trivial
  cases ev with
  | data id length =>
    obtain ⟨stillBalanced, found⟩ := getChannel_found bal id
    exact fair_startWait s stillBalanced found
  | close id => exact ⟨nofun, idle ((aside_targetClosed s id).handler.trans isIdle)⟩
  | _ => exact ⟨nofun, idle isIdle⟩

theorem fair_goOn (sound : Sound stall s) (isWaiting : s.handler = .waiting req stage)
    (orderly : Orderly stall s ev) : Fair stall s (goOn stall s req stage ev) := by
  obtain ⟨bal, inUse, waiting⟩ := sound.waiting isWaiting
  have same : Doomed stall s s.handler := by
    rw [isWaiting]
    trivial
  cases ev with
  | poll =>
    refine (polled bal inUse waiting.2).fair bal waiting.1 waiting.2 ?_
    rintro timer rfl
    simp only [Orderly, isWaiting] at orderly
    exact orderly
  | cancelled => exact ⟨nofun, trivial⟩
  | _ => exact ⟨nofun, same⟩

theorem fair_afterClose (sound : Sound stall s) (isClosing : s.handler = .closing rest again)
    (doomed : Doomed stall s (.closing rest again)) :
    Fair stall s (afterClose stall s again rest) := by
  obtain ⟨bal, found⟩ : Balanced s (fun _ => 0) ∧
      HandlerSound stall s (.closing rest again) := sound.known isClosing
  obtain ⟨distinct, stalled⟩ := doomed
  cases rest with
  | cons stuck rest =>
    exact fair_closeStalled bal (stalled stuck (.head _)) distinct
      fun n mem => stalled n (.tail _ mem)
  | nil =>
    cases again with
    | none => exact ⟨nofun, trivial⟩
    | some req => exact fair_startWait s bal (found req rfl)

theorem fair_act (sound : Sound stall s) (doomed : Doomed stall s s.handler)
    (orderly : Orderly stall s ev) : Fair stall s (act stall s ev) := by
  rw [act]
  split
  case h_1 isIdle => exact fair_serve sound isIdle ev
  case h_2 req stage isWaiting => exact fair_goOn sound isWaiting orderly
  case h_3 rest again isClosing =>
    split
    · grind [fair_afterClose]
    · exact ⟨by rintro _ ⟨⟩, trivial⟩
    · exact ⟨by rintro _ ⟨⟩, doomed⟩

theorem Doomed.spares {hdl : Handler} (doomed : Doomed stall s hdl)
    (entries : later.entries = s.entries)
    (spares : ∀ rest again, hdl = .closing rest again → ∀ n ∈ rest, ∀ k,
      s.entries.lookup n = some k → Spares k s later) : Doomed stall later hdl := by
  cases hdl with
  | idle | waiting req stage => trivial
  | closing rest again =>
    refine ⟨doomed.1, fun n mem => ?_⟩
    obtain ⟨k, found, stalled⟩ := doomed.2 n mem
    exact ⟨k, entries ▸ found, stalled.spares (spares rest again rfl n mem k found)⟩

theorem spares_goLive (s : State) (n : ChannelId) (k : Nat) : Spares k s (s.goLive n) := by
  rw [goLive]
  split
  case h_2 => exact Spares.of_inputs (le_refl _) rfl rfl
  case h_1 other found =>
    by_cases same : k = other
    · subst same
      refine ⟨le_refl _, ?_, ?_, fun _ isHeld _ => isHeld, ?_⟩
      all_goals rw [inputs_modify_self]
      exact fun since isLive => Option.or_eq_some_iff.mpr (.inl isLive)
    · exact Spares.of_inputs (le_refl _) (inputs_modify_other s same _) rfl

theorem spares_drop {i k : Nat} (apart : ∀ input ∈ s.held[i]?, k ≠ input.channel) :
    Spares k s (s.drop i) := by
  rw [State.drop]
  split
  case h_1 => exact Spares.of_inputs (le_refl _) rfl rfl
  case h_2 input found =>
    have apart := apart input found
    have same : ((s.modify input.channel fun chan =>
        { chan with
          budget := chan.budget.freed.giveBack input.share
          freedAt := some s.clock }).inputs k) = s.inputs k :=
      inputs_modify_other s apart _
    refine ⟨le_refl _, fun since isLive => ?_, ?_, fun other isHeld here => ?_, ?_⟩
    · exact same ▸ isLive
    · exact congrArg ChannelInput.closed same
    · obtain ⟨pos, atPosition⟩ := mem_iff_getElem?.mp isHeld
      refine mem_eraseIdx_iff_getElem?.mpr ⟨pos, fun isIndex => ?_, atPosition⟩
      rw [isIndex, found] at atPosition
      cases atPosition
      exact apart here.symm
    · exact congrArg ChannelInput.freedAt same

theorem fair_step (sound : Sound stall s) (doomed : Doomed stall s s.handler)
    (orderly : Orderly stall s ev) : Fair stall s (step stall s ev) := by
  cases ev with
  | elapse period =>
    exact ⟨nofun, doomed.spares rfl fun _ _ _ _ _ _ _ =>
      Spares.of_inputs (le_add_right _ _) rfl rfl⟩
  | live n =>
    refine ⟨nofun, ?_⟩
    show Doomed stall (s.goLive n) (s.goLive n).handler
    rw [(aside_goLive s n).handler]
    exact doomed.spares (aside_goLive s n).entries fun _ _ _ _ _ k _ => spares_goLive s n k
  | targetClosed n =>
    refine ⟨nofun, ?_⟩
    show Doomed stall (s.targetClosed n) (s.targetClosed n).handler
    rw [(aside_targetClosed s n).handler]
    refine doomed.spares (aside_targetClosed s n).entries ?_
    intro rest again isClosing other mem k found
    simp only [Orderly, isClosing] at orderly
    have apart : other ≠ n := by
      rintro rfl
      exact orderly mem
    exact Spares.of_inputs (le_of_eq (clock_targetClosed s n).symm)
      (inputs_targetClosed sound.balanced apart found) (held_targetClosed s n)
  | drop i =>
    refine ⟨nofun, ?_⟩
    show Doomed stall (s.drop i) (s.drop i).handler
    rw [(aside_drop s i).handler]
    refine doomed.spares (aside_drop s i).entries ?_
    intro rest again isClosing other mem k found
    simp only [Orderly, isClosing] at orderly
    refine spares_drop fun input isHeld same => orderly input isHeld other mem ?_
    rw [found, same]
  | _ => exact fair_act sound doomed orderly

theorem run_doomed {events : List Event}
    (orderly : Along (next stall) (Orderly stall) .initial events) :
    Doomed stall (run (next stall) .initial events) (run (next stall) .initial events).handler := by
  have keeps : ∀ s ev, Sound stall s ∧ Doomed stall s s.handler → Orderly stall s ev →
      Sound stall (next stall s ev) ∧ Doomed stall (next stall s ev) (next stall s ev).handler :=
    fun _ ev known orderly => ⟨sound_step known.1 ev, (fair_step known.1 known.2 orderly).doomed⟩
  exact (orderly.keeps keeps ⟨sound_initial stall, trivial⟩).2

theorem Polled.held (polled : Polled stall s req stage res)
    (undelivered : ∀ input, res.2 ≠ some (.delivered input)) : res.1.held = s.held := by
  cases polled with
  | delivered later input idle entries => exact absurd rfl (undelivered input)
  | pending later next waiting entries held sound | dropped later idle entries held => exact held
  | stalled timer isChannel unclosed due => exact held_targetClosed s _
  | connectionStalled timer isConnection unclosed due =>
    rw [closeHolders]
    split <;> exact held_targetClosed (s.giveBack req.key req.wanted) _

variable (sound : Sound stall s)

include sound

theorem held_serve (isIdle : s.handler = .idle)
    (undelivered : ∀ input, (serve stall s ev).2 ≠ some (.delivered input)) :
    (serve stall s ev).1.held = s.held := by
  have bal : Balanced s fun _ => 0 := (sound.known isIdle).1
  cases ev with
  | data id length =>
    obtain ⟨stillBalanced, found⟩ := getChannel_found bal id
    have inUse := (stillBalanced.named id _ found).1
    have held : (s.getChannel id).2.held = s.held := by
      rw [getChannel]
      split <;> rfl
    rw [← held]
    exact (polled_start stillBalanced inUse).held undelivered
  | close id => exact held_targetClosed s id
  | _ => rfl

theorem held_goOn (isWaiting : s.handler = .waiting req stage)
    (undelivered : ∀ input, (goOn stall s req stage ev).2 ≠ some (.delivered input)) :
    (goOn stall s req stage ev).1.held = s.held := by
  obtain ⟨bal, inUse, waiting⟩ := sound.waiting isWaiting
  cases ev with
  | poll => exact (polled bal inUse waiting.2).held undelivered
  | cancelled => exact held_release s req stage
  | _ => rfl

theorem held_afterClose (isClosing : s.handler = .closing rest again)
    (undelivered : ∀ input, (afterClose stall s again rest).2 ≠ some (.delivered input)) :
    (afterClose stall s again rest).1.held = s.held := by
  obtain ⟨bal, found⟩ : Balanced s (fun _ => 0) ∧
      HandlerSound stall s (.closing rest again) := sound.known isClosing
  cases rest with
  | cons stuck rest => exact held_targetClosed s stuck
  | nil =>
    cases again with
    | none => rfl
    | some req =>
      have inUse := (bal.named req.channel req.key (found req rfl)).1
      exact (polled_start bal inUse).held undelivered

theorem held_step
    (undelivered : ∀ input, (step stall s ev).2 ≠ some (.delivered input)) :
    (next stall s ev).held ⊆ s.held := by
  have acts : ∀ {ev}, (∀ input, (act stall s ev).2 ≠ some (.delivered input)) →
      (act stall s ev).1.held = s.held := by
    intro ev undelivered
    rw [act] at undelivered ⊢
    split at undelivered
    case h_1 isIdle => exact held_serve sound isIdle undelivered
    case h_2 req stage isWaiting => exact held_goOn sound isWaiting undelivered
    case h_3 rest again isClosing =>
      split at undelivered
      · exact held_afterClose sound isClosing undelivered
      · rfl
      · rfl
  cases ev with
  | elapse period => exact fun _ mem => mem
  | live n => exact (aside_goLive s n).held
  | targetClosed n => exact (aside_targetClosed s n).held
  | drop i => exact (aside_drop s i).held
  | _ => exact fun _ mem => (acts undelivered) ▸ mem

end Stalling

/-- A channel is closed as stalled only if its target had it open and took none of the input it
holds for the whole period, and a wait that delivers nothing holds nothing: the connection's room
that is not free is that of input that was delivered and not dropped. -/
theorem only_stalled_channels_are_closed (stall : Duration) (events : List Event) (event : Event) :
    (Along (next stall) (Orderly stall) .initial (events ++ [event]) →
      ∀ number, (step stall (run (next stall) .initial events) event).2 = some (.stalled number) →
        Stalled stall (run (next stall) .initial events) number) ∧
    ((∀ input, (step stall (run (next stall) .initial events) event).2 ≠ some (.delivered input)) →
      (next stall (run (next stall) .initial events) event).held ⊆
        (run (next stall) .initial events).held) ∧
    (run (next stall) .initial events).connection.room +
      total (run (next stall) .initial events).held = connectionInputBudget := by
  have sound := run_sound stall events
  refine ⟨fun orderly => ?_, held_step sound, sound.balanced.connection⟩
  obtain ⟨pre, last⟩ := along_append.mp orderly
  exact (fair_step sound (run_doomed pre) last.1).told

variable (channels : List ChannelId)

def opens : List Event := channels.map .openedChannel

def goLives : List Event := channels.map .live

def fills : List Event :=
  channels.map fun channel => .data channel channelInputBudget

def stallsAlone : List Event :=
  opens [1] ++ goLives [1] ++ fills [1] ++ [.data 1 100, .elapse 10]

theorem stalled_channel_is_closed :
    (step 10 (run (next 10) .initial stallsAlone) .poll).2 = some (.stalled 1) ∧
    Stalled 10 (run (next 10) .initial stallsAlone) 1 ∧
    (next 10 (run (next 10) .initial stallsAlone) .poll).held ⊆
      (run (next 10) .initial stallsAlone).held := by
  have told : (step 10 (run (next 10) .initial stallsAlone) .poll).2 = some (.stalled 1) := by
    decide +kernel
  have orderly : Along (next 10) (Orderly 10) .initial (stallsAlone ++ [.poll]) := by decide +kernel
  obtain ⟨stalls, holds, -⟩ := only_stalled_channels_are_closed 10 stallsAlone .poll
  refine ⟨told, stalls orderly 1 told, holds fun input isDelivered => ?_⟩
  rw [told] at isDelivered
  cases isDelivered

def waitsForConnecting : List Event :=
  opens [1, 2, 3, 4, 5, 6, 7, 8, 9] ++ fills [1, 2, 3, 4, 5, 6, 7, 8] ++
    [.live 9, .data 9 1, .elapse 10]

def opensLate : List Event := waitsForConnecting ++ [.live 1]

def goesOnLate : List Event :=
  opens [1, 2, 3, 4, 5, 6, 7, 8, 9] ++ goLives [1, 2, 3, 4, 5, 6, 7, 8, 9] ++
    fills [1, 2, 3, 4, 5, 6, 7, 8] ++ [.data 9 1, .elapse 10, .poll, .drop 6]

theorem other_channels_are_closed :
    ((step 10 (run (next 10) .initial waitsForConnecting) .poll).2 = some (.stalled 9) ∧
      (run (next 10) .initial waitsForConnecting).entries.lookup 9 = some 8 ∧
      (∀ input ∈ (run (next 10) .initial waitsForConnecting).held, input.channel ≠ 8) ∧
      ¬ Stalled 10 (run (next 10) .initial waitsForConnecting) 9) ∧
    ((step 10 (run (next 10) .initial opensLate) .poll).2 = some (.stalled 1) ∧
      (run (next 10) .initial opensLate).clock = 10 ∧
      ((run (next 10) .initial opensLate).inputs 0).live = some 10 ∧
      ¬ Stalled 10 (run (next 10) .initial opensLate) 1) ∧
    ((step 10 (run (next 10) .initial goesOnLate) .answered).2 = some (.stalled 7) ∧
      (run (next 10) .initial goesOnLate).clock = 10 ∧
      ((run (next 10) .initial goesOnLate).inputs 6).freedAt = some 10 ∧
      ¬ Stalled 10 (run (next 10) .initial goesOnLate) 7) := by
  decide +kernel

end Warpgate.Ssh.Input
