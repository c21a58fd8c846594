/-
This file is about the SSO handshakes in flight, which are kept by their state and
bound to the session that started them.
-/

import Mathlib.Data.List.Perm.Subperm
import Warpgate.Basic
import Warpgate.Http.Headers

namespace Warpgate.Http.SsoRequests

open List

variable {V : Type}

def TTL_SECONDS : Int := 600

def ttl : Int := TTL_SECONDS * 1000000000

def MAX_ENTRIES : Nat := 8192

/-! ### The store -/

structure Entry (V : Type) where
  value : V
  sessionId : UserSessionId
  created : OffsetDateTime

abbrev Store (V : Type) := List (Text × Entry V)

def Entry.isLive (now : OffsetDateTime) (entry : Entry V) : Bool :=
  (now - entry.created).tdiv 1000000000 < TTL_SECONDS

def retain (now : OffsetDateTime) (store : Store V) : Store V := store.filter (·.2.isLive now)

def remove (state : Text) (store : Store V) : Store V := store.filter (·.1 ≠ state)

def insertAt (store : Store V) (now : OffsetDateTime) (state : Text) (value : V)
    (sessionId : UserSessionId) (oldest : Text) : Store V :=
  let kept := retain now store
  let kept := if MAX_ENTRIES ≤ kept.length then remove oldest kept else kept
  (state, ⟨value, sessionId, now⟩) :: remove state kept

def takeAt (store : Store V) (now : OffsetDateTime) (state : Text) (sessionId : UserSessionId) :
    Store V × Option V :=
  match store.find? (·.1 = state) with
  | none => (store, none)
  | some (_, entry) =>
    if !entry.isLive now then (remove state store, none)
    -- another session is rejected and the entry stays
    else if entry.sessionId ≠ sessionId then (store, none)
    else (remove state store, some entry.value)

inductive Call (V : Type)
  | insert (now : OffsetDateTime) (state : Text) (value : V) (sessionId : UserSessionId)
      (oldest : Text)
  | take (now : OffsetDateTime) (state : Text) (sessionId : UserSessionId)
  | vacuum (now : OffsetDateTime)

namespace Call

def now : Call V → OffsetDateTime
  | insert now .. | take now .. | vacuum now => now

def perform (store : Store V) : Call V → Store V × Option V
  | insert now state value sessionId oldest =>
    (insertAt store now state value sessionId oldest, none)
  | take now state sessionId => takeAt store now state sessionId
  | vacuum now => (retain now store, none)

def Finds (store : Store V) : Call V → Prop
  | insert now _ _ _ oldest => MAX_ENTRIES ≤ (retain now store).length →
      ∃ entry, (oldest, entry) ∈ retain now store ∧
        ∀ other ∈ retain now store, entry.created ≤ other.2.created
  | _ => True

/-- An eviction of the handshake of this state leaves none that is as old. -/
def Untied (evicted : Text) (store : Store V) : Call V → Prop
  | insert now _ _ _ oldest => MAX_ENTRIES ≤ (retain now store).length → oldest = evicted →
      ∀ entry other, (evicted, entry) ∈ retain now store → other ∈ retain now store →
        other.1 ≠ evicted → entry.created < other.2.created
  | _ => True

def inserted : Call V → Option Text
  | insert _ state .. => some state
  | _ => none

end Call

/-! ### Calls -/

abbrev History (V : Type) := List (Call V × Option V)

def inserts (history : History V) : List Text := history.filterMap (·.1.inserted)

def replay (history : History V) : Store V :=
  history.foldr (fun event store => (event.1.perform store).1) []

inductive Reaches : History V → Store V → Prop
  | new : Reaches [] []
  | call {history : History V} {store : Store V} (reached : Reaches history store) (call : Call V)
      (ordered : ∀ earlier ∈ history, earlier.1.now ≤ call.now) (finds : call.Finds store) :
      Reaches ((call, (call.perform store).2) :: history) (call.perform store).1

def taken (state : Text) : Call V × Option V → Bool
  | (.take _ asked _, some _) => asked = state
  | _ => false

def current : History V → Text → Option (Entry V)
  | [], _ => none
  | (.insert now inserted value sessionId _, _) :: rest, state =>
    if inserted = state then some ⟨value, sessionId, now⟩ else current rest state
  | event :: rest, state => if taken state event then none else current rest state

variable {oldest : Text}

section

variable {hist : History V} {store : Store V} {now : OffsetDateTime} {state s : Text}
  {sid : UserSessionId} {e : Entry V}

theorem tdiv_lt_iff (elapsed : Int) : elapsed.tdiv 1000000000 < TTL_SECONDS ↔ elapsed < ttl := by
  grind [ttl, TTL_SECONDS]

theorem isLive_iff : e.isLive now = true ↔ now - e.created < ttl :=
  decide_eq_true_iff.trans (tdiv_lt_iff _)

theorem mem_remove : (s, e) ∈ remove state store ↔ (s, e) ∈ store ∧ s ≠ state := by
  simp [remove]

theorem mem_retain : (s, e) ∈ retain now store ↔ (s, e) ∈ store ∧ e.isLive now = true := by
  simp [retain]

theorem mem_insertAt {value : V} :
    (s, e) ∈ insertAt store now state value sid oldest ↔
      s = state ∧ e = ⟨value, sid, now⟩ ∨ s ≠ state ∧ (s, e) ∈ retain now store ∧
        (MAX_ENTRIES ≤ (retain now store).length → s ≠ oldest) := by
  grind [insertAt, mem_remove]

theorem takeAt_cases (store : Store V) (now : OffsetDateTime) (state : Text) (sid : UserSessionId) :
    takeAt store now state sid = (store, none) ∨ ∃ e, (state, e) ∈ store ∧
        (e.isLive now = false ∧ takeAt store now state sid = (remove state store, none) ∨
          e.isLive now = true ∧ e.sessionId = sid ∧
            takeAt store now state sid = (remove state store, some e.value)) := by
  grind [takeAt]

/-! ### What is in the store -/

structure Sound (history : History V) (store : Store V) : Prop where
  nodup : (store.map Prod.fst).Nodup
  latest : ∀ state entry, (state, entry) ∈ store → current history state = some entry
  bounded : store.length ≤ MAX_ENTRIES

theorem Sound.filter (sound : Sound hist store) (p : Text × Entry V → Bool)
    {event : Call V × Option V} (kept : ∀ s e, (s, e) ∈ store.filter p →
      current (event :: hist) s = current hist s) : Sound (event :: hist) (store.filter p) where
  nodup := sound.nodup.sublist (filter_sublist.map Prod.fst)
  latest s e mem := (kept s e mem).trans (sound.latest s e (mem_filter.mp mem).1)
  bounded := (length_filter_le p store).trans sound.bounded

theorem Sound.insertAt {value : V} (sound : Sound hist store)
    (finds : (Call.insert now state value sid oldest).Finds store) :
    Sound ((.insert now state value sid oldest, none) :: hist)
      (insertAt store now state value sid oldest) where
  nodup := by
    refine nodup_cons.mpr ⟨by simp [remove], ?_⟩
    refine sound.nodup.sublist (Sublist.map Prod.fst ?_)
    refine filter_sublist.trans ?_
    split
    · exact filter_sublist.trans filter_sublist
    · exact filter_sublist
  latest s e mem := by
    rcases mem_insertAt.mp mem with ⟨rfl, rfl⟩ | ⟨other, kept, _⟩
    · exact if_pos rfl
    · exact (if_neg (Ne.symm other)).trans (sound.latest s e (mem_retain.mp kept).1)
  bounded := by
    have retained : (retain now store).length ≤ MAX_ENTRIES :=
      (length_filter_le _ store).trans sound.bounded
    have small : (if MAX_ENTRIES ≤ (retain now store).length then remove oldest (retain now store)
        else retain now store).length < MAX_ENTRIES := by
      split
      · next full =>
        obtain ⟨e, mem, _⟩ := finds full
        exact (length_filter_lt_length_iff_exists.mpr ⟨_, mem, by simp⟩).trans_le retained
      · next room => exact Nat.lt_of_not_le room
    exact Nat.succ_le_of_lt ((length_filter_le _ _).trans_lt small)

theorem Reaches.sound (reached : Reaches hist store) : Sound hist store := by
  induction reached with
  | new => exact ⟨nodup_nil, by simp, Nat.zero_le _⟩
  | @call hist store reached call ordered finds ih =>
    cases call with
    | insert now state value sid oldest => exact ih.insertAt finds
    | vacuum now => exact ih.filter _ fun _ _ _ => rfl
    | take now state sid =>
      simp only [Call.perform]
      rcases takeAt_cases store now state sid with same | ⟨e, _, ⟨_, same⟩ | ⟨_, _, same⟩⟩
      · rw [same]
        exact ⟨ih.nodup, ih.latest, ih.bounded⟩
      · rw [same]
        exact ih.filter _ fun _ _ _ => rfl
      · rw [same]
        refine ih.filter _ fun s e mem => if_neg ?_
        simpa [taken, eq_comm] using (mem_remove.mp mem).2

variable {newer older : History V}

theorem Reaches.suffix (reached : Reaches (newer ++ older) store) :
    ∃ earlier : Store V, Reaches older earlier := by
  induction newer generalizing store with
  | nil => exact ⟨store, reached⟩
  | cons event rest ih =>
    cases reached with
    | call reached => exact ih reached

variable {event : Call V × Option V}

theorem current_cons (cur : current (event :: hist) s = some e) :
    (∃ oldest result, event = (.insert e.created s e.value e.sessionId oldest, result)) ∨
      event.1.inserted ≠ some s ∧ taken s event = false ∧ current hist s = some e := by
  obtain ⟨call, result⟩ := event
  cases call with
  | insert now inserted value sid oldest =>
    simp only [current] at cur
    split at cur
    · grind
    · next other => exact .inr ⟨by simpa [Call.inserted] using other, rfl, cur⟩
  | take now asked sid =>
    simp only [current] at cur
    split at cur
    · cases cur
    · next untaken => exact .inr ⟨by simp [Call.inserted], by simpa using untaken, cur⟩
  | vacuum now => exact .inr ⟨by simp [Call.inserted], rfl, cur⟩

theorem notMem_inserts_cons :
    s ∉ inserts (event :: hist) ↔ event.1.inserted ≠ some s ∧ s ∉ inserts hist := by
  cases isInsert : event.1.inserted <;> simp [inserts, isInsert, eq_comm]

theorem current_eq_some (cur : current hist s = some e) :
    ∃ newer older oldest result,
      hist = newer ++ (.insert e.created s e.value e.sessionId oldest, result) :: older ∧
        s ∉ inserts newer := by
  induction hist with
  | nil => cases cur
  | cons event rest ih =>
    rcases current_cons cur with ⟨oldest, result, rfl⟩ | ⟨other, _, further⟩
    · exact ⟨[], rest, oldest, result, rfl, not_mem_nil⟩
    · grind [notMem_inserts_cons]

theorem mem_inserts_of_current
    (isTaken : taken s event = true) (cur : current (newer ++ event :: older) s = some e) :
    s ∈ inserts newer := by
  induction newer with
  | nil =>
    rcases current_cons cur with ⟨oldest, result, rfl⟩ | ⟨_, untaken, _⟩
    · cases isTaken
    · cases isTaken.symm.trans untaken
  | cons first rest ih =>
    by_contra absent
    obtain ⟨other, further⟩ := notMem_inserts_cons.mp absent
    rcases current_cons cur with ⟨oldest, result, rfl⟩ | ⟨_, _, cur⟩
    · exact other rfl
    · exact further (ih cur)

theorem Reaches.eq_replay (reached : Reaches hist store) : store = replay hist := by
  induction reached with
  | new => rfl
  | call reached call ordered finds ih =>
    subst ih
    rfl

theorem Reaches.ordered (reached : Reaches (newer ++ event :: older) store) :
    ∀ earlier ∈ older, earlier.1.now ≤ event.1.now := by
  obtain ⟨_, reached⟩ := reached.suffix
  cases reached with
  | call reached call ordered finds => exact ordered

theorem Reaches.of_take {v : V} (reached : Reaches ((.take now s sid, some v) :: hist) store) :
    ∃ e, current hist s = some e ∧ e.value = v ∧ e.sessionId = sid ∧ now - e.created < ttl := by
  generalize same : (Call.take now s sid, some v) :: hist = whole at reached
  cases reached with
  | new => cases same
  | @call hist store reached call ordered finds =>
    obtain ⟨head, rfl⟩ := cons.inj same
    obtain ⟨rfl, returned⟩ := Prod.mk.inj head
    simp only [Call.perform] at returned
    rcases takeAt_cases store now s sid with same | ⟨e, mem, ⟨_, same⟩ | ⟨live, own, same⟩⟩ <;>
      rw [same] at returned
    · cases returned
    · cases returned
    · exact ⟨e, reached.sound.latest s e mem, (Option.some.inj returned).symm, own,
        isLive_iff.mp live⟩

theorem takeAt_of_mem (sound : Sound hist store) (mem : (s, e) ∈ store)
    (live : now - e.created < ttl) :
    takeAt store now s sid =
      if e.sessionId ≠ sid then (store, none) else (remove s store, some e.value) := by
  cases found : store.find? (·.1 = s) with
  | none => exact absurd (find?_eq_none.mp found _ mem) (by simp)
  | some first =>
    obtain ⟨key, e'⟩ := first
    have isKey : key = s := by simpa using find?_some found
    subst isKey
    have cur := sound.latest key e' (mem_of_find?_eq_some found)
    cases (sound.latest key e mem).symm.trans cur
    simp [takeAt, found, isLive_iff.mpr live]

theorem length_le_inserts {result : Option V} {kept : Store V}
    (sound : Sound (newer ++ (.insert e.created s e.value e.sessionId oldest, result) :: older)
      store) (isKept : kept.Sublist store)
    (first : ∀ event ∈ older, event.1.now ≤ e.created)
    (isOldest : ∀ other ∈ kept, other.1 ≠ s → e.created < other.2.created) :
    kept.length ≤ (inserts newer).length + 1 := by
  have sub : kept.map Prod.fst ⊆ s :: inserts newer := by
    intro _ mem
    obtain ⟨⟨key, e'⟩, inKept, rfl⟩ := mem_map.mp mem
    obtain ⟨_, _, oldest', result', same, _⟩ :=
      current_eq_some (sound.latest _ e' (isKept.subset inKept))
    have inserted : (Call.insert e'.created key e'.value e'.sessionId oldest', result') ∈
        newer ++ (.insert e.created s e.value e.sessionId oldest, result) :: older :=
      same ▸ mem_append_cons_self
    by_cases own : key = s
    · exact own ▸ .head _
    rcases mem_append.mp inserted with since | before
    · exact .tail _ (mem_filterMap.mpr ⟨_, since, rfl⟩)
    · rcases mem_cons.mp before with isSame | earlier
      · grind
      · exact absurd (first _ earlier) (Int.not_le.mpr (isOldest _ inKept own))
  simpa using ((sound.nodup.sublist (isKept.map _)).subperm sub).length_le

theorem Reaches.keeps {result : Option V} (reached : Reaches
      (newer ++ (.insert e.created s e.value e.sessionId oldest, result) :: older) store)
    (untied : ∀ since event before, newer = since ++ event :: before → event.1.Untied s
      (replay (before ++ (.insert e.created s e.value e.sessionId oldest, result) :: older)))
    (absent : s ∉ inserts newer) (untaken : ∀ event ∈ newer, taken s event = false)
    (few : (inserts newer).length < MAX_ENTRIES) (later : ∀ event ∈ newer, event.1.now ≤ now)
    (live : now - e.created < ttl) : (s, e) ∈ store := by
  induction newer generalizing store with
  | nil =>
    cases reached with
    | call => exact mem_insertAt.mpr (.inl ⟨rfl, rfl⟩)
  | cons event rest ih =>
    rw [cons_append] at reached
    cases reached with
    | @call _ store reached call ordered finds =>
      obtain ⟨other, further⟩ := notMem_inserts_cons.mp absent
      have sound := reached.sound
      have liveNow : e.isLive call.now = true := isLive_iff.mpr (Int.lt_of_le_of_lt
        (Int.sub_le_sub_right (later _ (.head _)) _) live)
      have mem : (s, e) ∈ store := by
        refine ih reached (fun since event before same => ?_) further
          (fun event mem => untaken event (.tail _ mem)) ?_ fun event mem =>
            later event (.tail _ mem)
        · exact untied (_ :: since) event before (congrArg (_ :: ·) same)
        exact ((sublist_cons_self _ rest).filterMap _).length_le.trans_lt few
      have same {e'} (mem' : (s, e') ∈ store) : e' = e :=
        Option.some.inj ((sound.latest s e' mem').symm.trans (sound.latest s e mem))
      cases call with
      | insert now' state' value' sid' oldest' =>
        have kept : (s, e) ∈ retain now' store := mem_retain.mpr ⟨mem, liveNow⟩
        refine mem_insertAt.mpr (.inr ⟨fun isSame => other (isSame ▸ rfl), kept, ?_⟩)
        rintro full rfl
        have isOldest := untied [] _ rest rfl
        rw [← reached.eq_replay] at isOldest
        have bound := length_le_inserts sound filter_sublist reached.ordered
          fun other mem => isOldest full rfl e other kept mem
        exact absurd (full.trans bound) (Nat.not_le.mpr few)
      | vacuum now' => exact mem_retain.mpr ⟨mem, liveNow⟩
      | take now' state' sid' =>
        have isOther : (taken s (Call.take now' state' sid', (takeAt store now' state' sid').2)) =
            false := untaken _ (.head _)
        simp only [Call.perform]
        rcases takeAt_cases store now' state' sid' with
          unchanged | ⟨e', mem', ⟨expired, removed⟩ | ⟨_, _, removed⟩⟩
        · rwa [unchanged]
        · rw [removed]
          refine mem_remove.mpr ⟨mem, ?_⟩
          rintro rfl
          cases same mem'
          exact absurd liveNow (by rw [Call.now, expired]; decide)
        · rw [removed] at isOther ⊢
          exact mem_remove.mpr ⟨mem, fun isSame => by simp [taken, isSame] at isOther⟩

end

/-- After any calls at times in order: the store is bounded; between two takes of one state that
return something the state was inserted; a take returns what the latest insert of the state stored
for that session less than the time to live ago; a take by another session leaves the handshake to
its own; and it is returned while it is live, untaken and the latest of its state with fewer inserts
since than there is room, if no eviction chose it from several as old. -/
theorem handshakes_are_kept_for_their_session {history : History V} {store : Store V}
    (reached : Reaches history store) :
    store.length ≤ MAX_ENTRIES ∧
    (∀ newer between older state now sessionId value now' sessionId' value',
      history = newer ++ (.take now state sessionId, some value) :: (between ++
        (.take now' state sessionId', some value') :: older) → state ∈ inserts between) ∧
    (∀ newer earlier now state sessionId value,
      history = newer ++ (.take now state sessionId, some value) :: earlier →
      ∃ since older created oldest result,
        earlier = since ++ (.insert created state value sessionId oldest, result) :: older ∧
        state ∉ inserts since ∧ now - created < ttl) ∧
    (∀ state entry, (state, entry) ∈ store → ∀ other now later, other ≠ entry.sessionId →
      now ≤ later → later - entry.created < ttl →
      (takeAt (takeAt store now state other).1 later state entry.sessionId).2 =
        some entry.value) ∧
    ∀ newer older created state value sessionId oldest result now,
      history = newer ++ (.insert created state value sessionId oldest, result) :: older →
      state ∉ inserts newer → (∀ event ∈ newer, taken state event = false) →
      (inserts newer).length < MAX_ENTRIES → (∀ event ∈ history, event.1.now ≤ now) →
      now - created < ttl →
      (∀ since event before, newer = since ++ event :: before → event.1.Untied state
        (replay (before ++ (.insert created state value sessionId oldest, result) :: older))) →
      (takeAt store now state sessionId).2 = some value := by
  refine ⟨reached.sound.bounded, ?_, ?_, ?_, ?_⟩
  · rintro newer between older state now sid v now' sid' v' rfl
    obtain ⟨_, reached⟩ := reached.suffix
    obtain ⟨e, cur, _⟩ := reached.of_take
    exact mem_inserts_of_current (by simp [taken]) cur
  · rintro newer earlier now state sid v rfl
    obtain ⟨_, reached⟩ := reached.suffix
    obtain ⟨e, cur, rfl, rfl, live⟩ := reached.of_take
    obtain ⟨since, older, oldest, result, same, absent⟩ := current_eq_some cur
    exact ⟨since, older, e.created, oldest, result, same, absent, live⟩
  · intro state e mem other now later isOther ordered live
    have liveNow := Int.lt_of_le_of_lt (Int.sub_le_sub_right ordered e.created) live
    rw [takeAt_of_mem reached.sound mem liveNow, if_pos isOther.symm,
      takeAt_of_mem reached.sound mem live, if_neg (not_not.mpr rfl)]
  · rintro newer older created state v sid oldest result now rfl absent
      untaken few later live untied
    have mem : (state, (⟨v, sid, created⟩ : Entry V)) ∈ store :=
      reached.keeps untied absent untaken few
        (fun event mem => later event (mem_append_left _ mem)) live
    rw [takeAt_of_mem reached.sound mem live, if_neg (not_not.mpr rfl)]

def handshakes : History Nat :=
  [(.insert 3 ['c'] 9 2 [], none), (.vacuum 2, none), (.take 1 ['a'] 1, none),
    (.insert 0 ['a'] 7 0 [], none), (.insert 0 ['b'] 8 1 [], none)]

theorem reaches_handshakes : Reaches handshakes (replay handshakes) :=
  .call (.call (.call (.call (.call .new (.insert 0 ['b'] 8 1 []) (by decide)
      fun full => absurd full (by decide)) (.insert 0 ['a'] 7 0 []) (by decide)
      fun full => absurd full (by decide)) (.take 1 ['a'] 1) (by decide) trivial)
    (.vacuum 2) (by decide) trivial) (.insert 3 ['c'] 9 2 []) (by decide)
    fun full => absurd full (by decide)

/-- Two handshakes of one instant, a take by the wrong session, a vacuum and a later insert: the
session that started the second handshake gets it. -/
theorem handshake_is_returned : (takeAt (replay handshakes) 4 ['a'] 0).2 = some 7 := by
  refine (handshakes_are_kept_for_their_session reaches_handshakes).2.2.2.2 _
    [(.insert 0 ['b'] 8 1 [], none)] 0 ['a'] 7 0 [] none 4
    (show handshakes = [_, _, _] ++ _ from rfl) (by decide) (by decide) (by decide) (by decide)
    (by decide) ?_
  intro since event before split
  rcases since with _ | ⟨_, _ | ⟨_, _ | ⟨_, since⟩⟩⟩
  · cases split
    exact fun full => absurd full (by decide)
  · cases split
    trivial
  · cases split
    trivial
  · simp at split

def flood : Nat → History Unit
  | 0 => []
  | n + 1 => (.insert 0 (.replicate n 'a') () 0 [], none) :: flood n

def flooded : Nat → Store Unit
  | 0 => []
  | n + 1 => (.replicate n 'a', ⟨(), 0, 0⟩) :: flooded n

variable {n : Nat}

theorem mem_flooded {k : Text} {e : Entry Unit} (mem : (k, e) ∈ flooded n) :
    k.length < n ∧ e = ⟨(), 0, 0⟩ := by
  induction n with
  | zero => cases mem
  | succ n ih =>
    rcases mem_cons.mp mem with same | further
    · cases same
      exact ⟨by simp, rfl⟩
    · exact ⟨(ih further).1.trans n.lt_succ_self, (ih further).2⟩

theorem flooded_length (n : Nat) : (flooded n).length = n := by
  induction n with
  | zero => rfl
  | succ n ih => exact congrArg Nat.succ ih

theorem retain_flooded (n : Nat) : retain 0 (flooded n) = flooded n :=
  filter_eq_self.mpr fun _ mem => by
    rw [(mem_flooded mem).2]
    decide

theorem now_of_mem_flood {event : Call Unit × Option Unit} (mem : event ∈ flood n) :
    event.1.now = 0 := by
  induction n with
  | zero => cases mem
  | succ n ih =>
    rcases mem_cons.mp mem with rfl | further
    · rfl
    · exact ih further

theorem reaches_flood (room : n ≤ MAX_ENTRIES) : Reaches (flood n) (flooded n) := by
  induction n with
  | zero => exact .new
  | succ n ih =>
    have notFull : ¬MAX_ENTRIES ≤ (retain 0 (flooded n)).length := by
      rw [retain_flooded, flooded_length]
      exact Nat.not_le.mpr room
    have reached := Reaches.call (ih (Nat.le_of_succ_le room))
      (.insert 0 (.replicate n 'a') () 0 [])
      (fun _ mem => Int.le_of_eq (now_of_mem_flood mem)) fun full => absurd full notFull
    have fresh : remove (.replicate n 'a') (flooded n) = flooded n :=
      filter_eq_self.mpr fun entry mem => decide_eq_true fun same =>
        absurd (mem_flooded mem).1 (by simp [same])
    simp only [Call.perform, insertAt, if_neg notFull] at reached
    rwa [retain_flooded, fresh] at reached

theorem latest_handshake_may_be_evicted : ∃ store,
    Reaches ((.insert 0 (.replicate MAX_ENTRIES 'a') () 0
        (.replicate (MAX_ENTRIES - 1) 'a'), none) ::
      (.insert 0 (.replicate (MAX_ENTRIES - 1) 'a') () 0 [], none) :: flood (MAX_ENTRIES - 1))
      store ∧ (takeAt store 0 (.replicate (MAX_ENTRIES - 1) 'a') 0).2 = none := by
  have full : retain 0 (flooded MAX_ENTRIES) = flooded MAX_ENTRIES := retain_flooded _
  refine ⟨_, Reaches.call (reaches_flood (Nat.le_refl MAX_ENTRIES))
    (.insert 0 (.replicate MAX_ENTRIES 'a') () 0 (.replicate (MAX_ENTRIES - 1) 'a'))
    (fun _ mem => Int.le_of_eq (now_of_mem_flood mem)) fun _ => ?_, ?_⟩
  · rw [full]
    exact ⟨⟨(), 0, 0⟩, .head _, fun _ mem => Int.le_of_eq (by rw [(mem_flooded mem).2])⟩
  · rcases takeAt_cases (insertAt (flooded MAX_ENTRIES) 0 (.replicate MAX_ENTRIES 'a') () 0
      (.replicate (MAX_ENTRIES - 1) 'a')) 0 (.replicate (MAX_ENTRIES - 1) 'a') 0 with
      same | ⟨e, mem, _⟩
    · exact congrArg Prod.snd same
    · rcases mem_insertAt.mp mem with ⟨same, _⟩ | ⟨_, _, other⟩
      · exact absurd (congrArg List.length same)
          (by rw [length_replicate, length_replicate]; decide)
      · exact absurd rfl (other (by rw [full, flooded_length]))

end Warpgate.Http.SsoRequests
