/-
This file is about the key of the cluster, and shows when a rotation of it may be called done.
-/

import Warpgate.Concurrent.Rely
import Warpgate.Encryption.System

namespace Warpgate.Encryption

open Concurrent List Sql.Table Bool Program Config Prod

variable {ring : Keyring}

section

/-! ### The key state is swapped under its owner -/

def Task.advancing : Task → Option Keyring
  | backfill ring _ | advance ring _ => some ring
  | _ => none

def maySwap (task : Task) (history : History Statement.Outcome) :
    Statement → Prop
  | .casKeyState current own => ∃ ring key rest, task.advancing = some ring ∧
      ring.primary = some key ∧ key.fingerprint = own ∧
      history = ⟨.getKeyState, current⟩ :: rest ∧
      ∀ fingerprint ∈ current, ring.contains fingerprint = true
  | _ => True

def Agrees (ring : Keyring) (history : History Statement.Outcome) :
    Position → Prop
  | .inSync => ∃ current rest, history = ⟨.getKeyState, current⟩ :: rest ∧
        current = ring.primary.map MasterKey.fingerprint ∨
      ∃ key, ring.primary = some key ∧
        history = ⟨.casKeyState current key.fingerprint, true⟩ ::
          ⟨.getKeyState, current⟩ :: rest
  | .behind => ∃ fingerprint rest, history = ⟨.getKeyState, some fingerprint⟩ :: rest ∧
      (ring.primary = none ∨ ring.contains fingerprint = false)

def refusals (history : History Statement.Outcome) : Nat :=
  history.countP fun
    | ⟨.casKeyState _ _, won⟩ => !won
    | _ => false

theorem refusals_refused (cur : Option String) (own : String) (hist : History Statement.Outcome) :
    refusals (⟨.casKeyState cur own, false⟩ :: hist) = refusals hist + 1 := by
  simp [refusals]

def Advanced (ring : Keyring) (refused : Nat) (history : History Statement.Outcome)
    (result : Option Position) : Prop :=
  (∀ position ∈ result, Agrees ring history position) ∧
    (result = none → refusals history = refused)

variable {task t : Task} {hist : History Statement.Outcome} {w : World}
  {stmt : Statement} {log : List (Entry Task Statement World)}

theorem advanceKeyState_follows (advancing : t.advancing = some ring)
    (rounds : Nat) (hist : History Statement.Outcome) :
    (advanceKeyState ring rounds).Follows (maySwap t)
      (Advanced ring (refusals hist + rounds)) hist := by
  induction rounds generalizing hist with
  | zero => exact ⟨nofun, fun _ => rfl⟩
  | succ rounds ih =>
    simp only [advanceKeyState, act_bind]
    refine ⟨trivial, fun cur => ?_⟩
    cases isPrimary : ring.primary with
    | none =>
      refine ⟨?_, by rintro ⟨⟩⟩
      rintro pos ⟨⟩
      cases cur with
      | none => exact ⟨none, hist, .inl ⟨rfl, by rw [isPrimary]; rfl⟩⟩
      | some fp => exact ⟨fp, hist, rfl, .inl isPrimary⟩
    | some k =>
      dsimp only
      split
      case isTrue own =>
        refine ⟨?_, by rintro ⟨⟩⟩
        rintro pos ⟨⟩
        exact ⟨cur, hist, .inl ⟨rfl, by rw [own, isPrimary]; rfl⟩⟩
      case isFalse =>
        split
        case isTrue lacks =>
          refine ⟨?_, by rintro ⟨⟩⟩
          rintro pos ⟨⟩
          obtain ⟨fp, rfl, uncontained⟩ := (Option.any_eq_true _ _).mp lacks
          exact ⟨fp, hist, rfl, .inr (by simpa using uncontained)⟩
        case isFalse holds =>
          refine ⟨⟨ring, k, hist, advancing, isPrimary, rfl, rfl, ?_⟩, fun won => ?_⟩
          · rintro fp ⟨⟩
            simpa using holds
          · cases won with
            | true =>
              refine ⟨?_, by rintro ⟨⟩⟩
              rintro pos ⟨⟩
              exact ⟨cur, hist, .inr ⟨k, isPrimary, rfl⟩⟩
            | false =>
              have refused : refusals (⟨.casKeyState cur k.fingerprint, false⟩ ::
                  ⟨.getKeyState, cur⟩ :: hist) + rounds = refusals hist + (rounds + 1) := by
                rw [refusals_refused, Nat.add_assoc, Nat.add_comm 1 rounds]
                rfl
              exact refused ▸ ih _

def Statement.swaps : Statement → Bool
  | casKeyState _ _ => true
  | _ => false

theorem performs_maySwap {Result : Type} {prog : Action Result}
    (perf : prog.Performs fun stmt => stmt.swaps = false) :
    prog.Follows (maySwap t) (fun _ _ => True) hist := by
  refine perf.follows (fun seen stmt other => ?_) fun _ _ => trivial
  cases stmt with
  | casKeyState cur own => cases other
  | _ => trivial

theorem backfill_follows_maySwap (advancing : t.advancing = some ring) (rounds : Nat) :
    (backfillCredentialEncryption ring rounds).Follows (maySwap t) (fun _ _ => True) [] := by
  refine (advanceKeyState_follows advancing rounds []).seq fun seen pos _ => ?_
  refine performs_maySwap ?_
  cases pos with
  | none => trivial
  | some pos =>
    refine (performs_probeUndecryptable ring allKinds fun _ => rfl).bind fun undecryptable => ?_
    split
    case h_1 =>
      have goesOn : ∀ cur, (backfillWith ring cur undecryptable).Performs fun stmt =>
          stmt.swaps = false := fun cur =>
        performs_backfillWith ring cur undecryptable rfl (fun _ => rfl) (fun _ _ => rfl)
          fun _ => rfl
      exact (goesOn _).bind fun _ => trivial
    case h_2 => trivial

def AdvancedTask (task : Task) (history : History Statement.Outcome)
    (answer : Answer) : Prop :=
  ∀ ring rounds, task = .advance ring rounds →
    ∃ result, answer = .advanced result ∧ Advanced ring rounds history result

theorem program_follows_maySwap (t : Task) :
    (system.program t).Follows (maySwap t) (AdvancedTask t) [] := by
  have other : (∀ ring rounds, t ≠ .advance ring rounds) →
      (system.program t).Follows (maySwap t) (fun _ _ => True) [] →
      (system.program t).Follows (maySwap t) (AdvancedTask t) [] :=
    fun ne follows => follows.imp (fun _ _ ok => ok) fun _ _ _ ring rounds same =>
      absurd same (ne ring rounds)
  cases t with
  | advance ring rounds =>
    have follows := advanceKeyState_follows (show (Task.advance ring rounds).advancing = _ from rfl)
      rounds []
    refine follows.seq fun seen res advanced => ?_
    rintro _ _ ⟨⟩
    rw [show refusals [] + rounds = rounds from Nat.zero_add rounds] at advanced
    exact ⟨res, rfl, advanced⟩
  | backfill ring rounds =>
    exact other nofun ((backfill_follows_maySwap rfl rounds).seq fun _ _ _ => trivial)
  | updateTarget ring id secrets options columns
  | updateSecretBackend ring id secrets options columns | updateSshClientKey id columns =>
    refine other nofun (performs_maySwap ⟨rfl, fun found => ?_⟩)
    cases found with
    | none => trivial
    | some r => exact ⟨rfl, fun _ => trivial⟩
  | _ => exact other nofun ⟨trivial, fun _ => trivial⟩

theorem encryptionKeyFp_execute (stmt : Statement) (w : World) :
    (execute stmt w).2.encryptionKeyFp = w.encryptionKeyFp ∨
      ∃ own, stmt = .casKeyState w.encryptionKeyFp own ∧
        (execute stmt w).2.encryptionKeyFp = some own := by
  cases stmt with
  | casKeyState cur own =>
    rw [execute, World.casKeyState]
    split
    case isTrue same => exact .inr ⟨own, by rw [same], rfl⟩
    case isFalse => exact .inl rfl
  | clearRetiring cur =>
    rw [execute, World.clearRetiring]
    split <;> exact .inl rfl
  | _ => exact .inl rfl

theorem moves_of_step {ms : List (Move Task)} {m : Move Task}
    (perf : ((initial w).run system ms).performed system m = some (t, stmt))
    (moved : (execute stmt ((initial w).run system ms).state).2.encryptionKeyFp ≠
      ((initial w).run system ms).state.encryptionKeyFp) :
    ∃ ring k, t.advancing = some ring ∧ ring.primary = some k ∧
      (execute stmt ((initial w).run system ms).state).2.encryptionKeyFp =
        some k.fingerprint ∧ ∀ fp ∈ ((initial w).run system ms).state.encryptionKeyFp,
        ring.contains fp = true := by
  rcases encryptionKeyFp_execute stmt ((initial w).run system ms).state with
    same | ⟨own, rfl, isOwn⟩
  · exact absurd same moved
  · obtain ⟨hist, next, mem⟩ := mem_of_performed system perf
    have follows := run_follows maySwap AdvancedTask program_follows_maySwap w ms
    obtain ⟨ring, k, -, advancing, isPrimary, rfl, -, contains⟩ := (follows _ mem).1
    exact ⟨ring, k, advancing, isPrimary, isOwn, contains⟩

def moved (log : List (Entry Task Statement World)) : Nat :=
  log.countP fun entry =>
    (execute entry.statement entry.before).2.encryptionKeyFp ≠ entry.before.encryptionKeyFp

def Outpaced (world : World) (log : List (Entry Task Statement World))
    (history : History Statement.Outcome) : Prop :=
  refusals history ≤ moved log ∧
    ∀ current rest, history = ⟨.getKeyState, current⟩ :: rest →
      world.encryptionKeyFp ≠ current → refusals history + 1 ≤ moved log

theorem Outpaced.others (outpaced : Outpaced w log hist) (t : Task) (stmt : Statement) :
    Outpaced (execute stmt w).2 (⟨t, stmt, w⟩ :: log) hist := by
  grind [Outpaced, moved]

theorem Outpaced.own (outpaced : Outpaced w log hist) (ok : maySwap t hist stmt) :
    Outpaced (execute stmt w).2 (⟨t, stmt, w⟩ :: log) (⟨stmt, (execute stmt w).1⟩ :: hist) := by
  obtain ⟨fewer, behind⟩ := outpaced.others t stmt
  cases stmt with
  | getKeyState =>
    refine ⟨fewer, ?_⟩
    rintro cur rest ⟨⟩ differs
    exact absurd rfl differs
  | casKeyState cur own =>
    refine ⟨?_, by rintro _ _ ⟨⟩⟩
    obtain ⟨-, -, rest, -, -, -, rfl, -⟩ := ok
    by_cases same : w.encryptionKeyFp = cur
    · have won : (execute (.casKeyState cur own) w).1 = true := by
        rw [execute, World.casKeyState, if_pos same]
      rw [won]
      exact fewer
    · have refused : (execute (.casKeyState cur own) w).1 = false := by
        rw [execute, World.casKeyState, if_neg same]
      have unmoved : (execute (.casKeyState cur own) w).2 = w := by
        rw [execute, World.casKeyState, if_neg same]
      rw [refused, refusals_refused]
      rw [unmoved] at behind
      exact behind cur rest rfl same
  | _ => exact ⟨fewer, by rintro _ _ ⟨⟩⟩

theorem outpaced_run (w : World) (ms : List (Move Task)) :
    ∀ th ∈ ((initial w).run system ms).threads, Outpaced ((initial w).run system ms).state
        ((initial w).run system ms).log th.history := by
  refine (run_invariant_of_protocol program_follows_maySwap (fun _ _ => True)
    (fun c => ∀ th ∈ c.threads, Outpaced c.state c.log th.history)
    ?_ ?_ w ms (along_of_forall system (fun _ _ => trivial) _ _) ?_).2
  · intro c t _ outpaced
    exact forall_threads_start outpaced ⟨Nat.zero_le _, by rintro _ _ ⟨⟩⟩
  · intro s pre t hist stmt next post log _ _ ok outpaced
    have others := fun th mem => (outpaced th mem).others t stmt
    refine forall_threads_perform others fun _ => ?_
    exact (outpaced _ mem_append_cons_self).own ok
  · exact fun th mem => by cases mem

end

/-! ### What becomes of the rows -/

def World.Every (world : World) (kind : Kind) (passes : Stored → Bool) : Prop :=
  ∀ row ∈ world.rows.rows, row.kind = kind → ∀ secret ∈ row.secrets, passes secret = true

def Adds (kind : Kind) (passes : Stored → Bool) (world later : World) : Prop :=
  ∀ row ∈ later.rows.rows, row.kind = kind →
    (∀ secret ∈ row.secrets, passes secret = true) ∨
      ∃ old ∈ world.rows.rows, old.key = row.key ∧ old.secrets = row.secrets

variable {w : World} {kind : Kind} {cur : MasterKey} {passes : Stored → Bool}
  {statement stmt : Statement} {task t : Task} {later : World}

theorem Adds.of_rows (same : later.rows = w.rows) : Adds kind passes w later := by
  intro r stored _
  rw [same] at stored
  exact .inr ⟨r, stored, rfl, rfl⟩

theorem Adds.refl (kind : Kind) (passes : Stored → Bool) (w : World) : Adds kind passes w w :=
  Adds.of_rows rfl

theorem Adds.trans {first second third : World} (adds : Adds kind passes first second)
    (adds' : Adds kind passes second third) : Adds kind passes first third := by
  intro r stored isKind
  rcases adds' r stored isKind with pass | ⟨old, wasStored, sameKey, same⟩
  · exact .inl pass
  · have oldKind := (congrArg fst sameKey).trans isKind
    rcases adds old wasStored oldKind with pass | ⟨older, wasStored', sameKey', same'⟩
    · exact .inl (same ▸ pass)
    · grind

theorem World.Every.adds (every : w.Every kind passes)
    (adds : Adds kind passes w later) : later.Every kind passes := by
  intro r stored isKind
  rcases adds r stored isKind with pass | ⟨old, wasStored, sameKey, same⟩
  · exact pass
  · rw [← same]
    exact every old wasStored ((congrArg fst sameKey).trans isKind)

def Statement.stores : Statement → List (Kind × List Stored)
  | rewrite kind changes => changes.map fun change => (kind, change.secrets)
  | edit kind _ made => made.value.toList.map fun value => (kind, value.1)
  | insert row => [(row.kind, row.secrets)]
  | _ => []

variable {change : Rewrite}

theorem mem_rewriteRow {rows : Sql.Table Row Row.key} {r : Row}
    (stored : r ∈ (World.rewriteRow rows kind change).rows) :
    ∃ old ∈ rows.rows, old.key = r.key ∧
      (r.key = (kind, change.id) ∧ r.secrets = change.secrets ∨
        r.key ≠ (kind, change.id) ∧ r.secrets = old.secrets) := by
  obtain ⟨old, wasStored, rfl⟩ := mem_map.mp stored
  refine ⟨old, wasStored, ?_⟩
  by_cases same : old.key = (kind, change.id)
  · rw [if_pos (decide_eq_true same)]
    exact ⟨rfl, .inl ⟨same, rfl⟩⟩
  · grind

variable {changes : List Rewrite}

theorem adds_rewrite {kind' : Kind}
    (pass : kind' = kind → ∀ change ∈ changes, ∀ secret ∈ change.secrets, passes secret = true) :
    Adds kind passes w (w.rewrite kind' changes) := by
  induction changes generalizing w with
  | nil => exact Adds.refl kind passes w
  | cons change rest ih =>
    have first : Adds kind passes w { w with rows := World.rewriteRow w.rows kind' change } := by
      intro r stored isKind
      obtain ⟨old, wasStored, sameKey, ⟨atKey, same⟩ | ⟨-, same⟩⟩ := mem_rewriteRow stored
      · have isKind' : kind' = kind := (congrArg fst atKey).symm.trans isKind
        rw [same]
        exact .inl (pass isKind' change (.head _))
      · exact .inr ⟨old, wasStored, sameKey, same.symm⟩
    exact first.trans (ih fun same change' mem => pass same change' (.tail _ mem))

theorem adds_execute
    (pass : ∀ secrets, (kind, secrets) ∈ stmt.stores → ∀ secret ∈ secrets, passes secret = true) :
    Adds kind passes w (execute stmt w).2 := by
  cases stmt with
  | rewrite kind' changes =>
    refine adds_rewrite fun same change mem => pass change.secrets ?_
    exact mem_map.mpr ⟨change, mem, by rw [same]⟩
  | edit kind' id made =>
    intro r stored isKind
    obtain ⟨old, wasStored, rfl⟩ := mem_map.mp stored
    split
    case isFalse => exact .inr ⟨old, wasStored, rfl, rfl⟩
    case isTrue atKey =>
      rw [if_pos atKey] at isKind
      cases isValue : made.value with
      | none =>
        refine .inr ⟨old, wasStored, (made.key_apply old).symm, ?_⟩
        rw [Edit.apply, isValue]
      | some v =>
        refine .inl ?_
        have isKind' : kind' = kind := ((congrArg fst (of_decide_eq_true atKey)).symm.trans
            (congrArg fst (made.key_apply old)).symm).trans isKind
        rw [Edit.apply, isValue]
        refine pass v.1 ?_
        rw [Statement.stores, isValue, isKind']
        exact mem_singleton.mpr rfl
  | insert r =>
    intro other stored isKind
    rcases mem_insert stored with rfl | wasStored
    · grind [Statement.stores]
    · exact .inr ⟨other, wasStored, rfl, rfl⟩
  | delete kind' id =>
    intro r stored _
    exact .inr ⟨r, mem_delete stored, rfl, rfl⟩
  | casKeyState cur own =>
    rw [execute, World.casKeyState]
    split <;> exact Adds.of_rows rfl
  | clearRetiring cur =>
    rw [execute, World.clearRetiring]
    split <;> exact Adds.of_rows rfl
  | _ => exact Adds.of_rows rfl

def Task.rotates : Task → Option (Keyring × MasterKey)
  | backfill ring _ => ring.primary.map fun current => (ring, current)
  | _ => none

theorem primary_of_rotates (rotates : t.rotates = some (ring, cur)) : ring.primary = some cur := by
  cases t with
  | backfill ring' rounds =>
    obtain ⟨k, isPrimary, same⟩ := Option.map_eq_some_iff.mp rotates
    cases same
    exact isPrimary
  | _ => cases rotates

def probes (kind : Kind) : Event Statement Statement.Outcome → Bool
  | ⟨.probeRows probed, _⟩ => probed = kind
  | _ => false

def probesWell (ring : Keyring) (kind : Kind) : Event Statement Statement.Outcome → Bool
  | ⟨.probeRows probed, rows⟩ =>
    probed = kind && rows.all fun row => ring.decryptsAll row.secrets
  | _ => false

def selectsKind (kind : Kind) : Event Statement Statement.Outcome → Bool
  | ⟨.selectRows selected, _⟩ => selected = kind
  | _ => false

def Relies (ring : Keyring) (current : MasterKey)
    (history : History Statement.Outcome) (world later : World) : Prop :=
  ∀ kind,
    (history.any (probes kind) = true → Adds kind ring.reads world later) ∧
      (history.any (selectsKind kind) = true →
        Adds kind (Stored.readableWith current) world later)

def rotation (task : Task) : Contract Statement Statement.Outcome World where
  rely history _ world later :=
    ∀ ring current, task.rotates = some (ring, current) → Relies ring current history world later
  requires _ statement world :=
    ∀ fingerprint, statement = .clearRetiring fingerprint → ∃ ring current,
      task.rotates = some (ring, current) ∧ fingerprint = current.fingerprint ∧
      ∀ kind, world.Every kind (Stored.readableWith current)
  refl _ _ world _ _ _ kind := ⟨fun _ => Adds.refl kind _ world, fun _ => Adds.refl kind _ world⟩
  trans _ _ _ _ _ relied relied' ring current rotates kind :=
    ⟨fun probed => ((relied ring current rotates kind).1 probed).trans
        ((relied' ring current rotates kind).1 probed),
      fun selected => ((relied ring current rotates kind).2 selected).trans
        ((relied' ring current rotates kind).2 selected)⟩

abbrev Rotates {Result : Type} (task : Task)
    (ensures : History Statement.Outcome → Result → World → Prop)
    (history : History Statement.Outcome) (program : Action Result)
    (world : World) : Prop :=
  program.Meets execute (fun _ _ => True) (rotation task) ensures history world

open World

theorem performs_rotates {Result : Type} {prog : Action Result} {hist : History Statement.Outcome}
    (perf : prog.Performs fun stmt => ∀ fp, stmt ≠ .clearRetiring fp) :
    Rotates t (fun _ _ _ => True) hist prog w := by
  refine meets_of_follows (perf.follows (fun _ _ other _ _ fp same => ?_) fun _ _ _ => trivial)
  exact absurd same (other fp)

/-! ### One rotation next to other tasks -/

section

variable {t : Task}

theorem reads_of_readableWith (isPrimary : ring.primary = some cur) {secret : Stored}
    (readable : secret.readableWith cur = true) : ring.reads secret = true := by
  cases secret with
  | plain text => rfl
  | envelope k text =>
    rw [of_decide_eq_true readable]
    exact decide_eq_true (Keyring.primary_mem_keys isPrimary)

def Known (ring : Keyring) (history : History Statement.Outcome) (world : World) :
    Prop :=
  ∀ kind, history.any (probesWell ring kind) = true → world.Every kind ring.reads

variable {hist : History Statement.Outcome}
  {fin : List Kind}

theorem any_probes_of_probesWell (well : hist.any (probesWell ring kind) = true) :
    hist.any (probes kind) = true := by
  obtain ⟨⟨stmt, out⟩, seen, well⟩ := any_eq_true.mp well
  refine any_eq_true.mpr ⟨_, seen, ?_⟩
  cases stmt with
  | probeRows probed => exact ((and_eq_true _ _).mp well).1
  | _ => cases well

theorem Known.relied (known : Known ring hist w)
    (relied : Relies ring cur hist w later) : Known ring hist later :=
  fun kind well => (known kind well).adds ((relied kind).1 (any_probes_of_probesWell well))

theorem every_of_decryptsAll
    (decrypts : (w.rowsOf kind).all (fun r => ring.decryptsAll r.secrets) = true) :
    w.Every kind ring.reads := by
  intro r stored isKind secret mem
  have all := all_eq_true.mp decrypts r ((mem_select _ _ _).mpr ⟨stored, decide_eq_true isKind⟩)
  rw [← Keyring.isOk_decrypt]
  exact all_eq_true.mp all secret mem

theorem Known.probe (known : Known ring hist w) (kind : Kind) :
    Known ring (⟨.probeRows kind, w.rowsOf kind⟩ :: hist) w := by
  intro kind' well
  rcases or_eq_true_iff.mp (any_cons ▸ well) with here | pre
  · obtain ⟨same, decrypts⟩ := (and_eq_true _ _).mp here
    rw [← of_decide_eq_true same]
    exact every_of_decryptsAll decrypts
  · exact known kind' pre

theorem probeUndecryptable_rotates (rotates : t.rotates = some (ring, cur))
    (ks : List Kind) (known : Known ring hist w) :
    Rotates t (fun seen undecryptable reached => Known ring seen reached ∧
        (∀ ev ∈ hist, ev ∈ seen) ∧
        (undecryptable = [] → ∀ kind ∈ ks, seen.any (probesWell ring kind) = true))
      hist (probeUndecryptable ring ks) w := by
  induction ks generalizing hist w with
  | nil => exact ⟨known, fun _ seen => seen, nofun⟩
  | cons kind rest ih =>
    intro later relied _
    refine ⟨nofun, ?_⟩
    have known' := (known.relied (relied ring cur rotates)).probe kind
    refine (ih known').seq fun seen others reached probed => ?_
    obtain ⟨known', older, wells⟩ := probed
    refine ⟨known', fun ev seen => older ev (.tail _ seen), ?_⟩
    intro none_found kind' mem
    obtain ⟨none_here, none_later⟩ := append_eq_nil_iff.mp none_found
    rcases mem_cons.mp mem with rfl | mem
    · refine any_eq_true.mpr ⟨_, older _ (.head _), ?_⟩
      have decrypts := filter_eq_nil_iff.mp (map_eq_nil_iff.mp none_here)
      refine (and_eq_true _ _).mpr ⟨decide_eq_true rfl, ?_⟩
      exact all_eq_true.mpr fun r isRow => by simpa using decrypts r isRow
    · exact wells none_later kind' mem

structure Progress (ring : Keyring) (current : MasterKey) (finished : List Kind)
    (history : History Statement.Outcome) (world : World) : Prop where
  probed : ∀ kind, history.any (probes kind) = true
  reads : ∀ kind, world.Every kind ring.reads
  selected : ∀ kind ∈ finished, history.any (selectsKind kind) = true
  settled : ∀ kind ∈ finished, world.Every kind (Stored.readableWith current)

theorem Progress.relied (progress : Progress ring cur fin hist w)
    (relied : Relies ring cur hist w later) : Progress ring cur fin hist later where
  probed := progress.probed
  reads kind := (progress.reads kind).adds ((relied kind).1 (progress.probed kind))
  selected := progress.selected
  settled kind isFinished := (progress.settled kind isFinished).adds
    ((relied kind).2 (progress.selected kind isFinished))

theorem Progress.own (isPrimary : ring.primary = some cur)
    (progress : Progress ring cur fin hist w) (stmt : Statement) (out : stmt.Outcome)
    (stores : ∀ kind secrets, (kind, secrets) ∈ stmt.stores →
      ∀ secret ∈ secrets, secret.readableWith cur = true) :
    Progress ring cur fin (⟨stmt, out⟩ :: hist) (execute stmt w).2 where
  probed kind := by rw [any_cons, progress.probed kind, Bool.or_true]
  reads kind := (progress.reads kind).adds (adds_execute fun secrets stored secret mem =>
    reads_of_readableWith isPrimary (stores kind secrets stored secret mem))
  selected kind isFinished := by rw [any_cons, progress.selected kind isFinished, Bool.or_true]
  settled kind isFinished := (progress.settled kind isFinished).adds (adds_execute (stores kind))

structure Pending (current : MasterKey) (kind : Kind) (changes : List Rewrite) (world : World) :
    Prop where
  rows : ∀ row ∈ world.rows.rows, row.kind = kind →
    (∀ secret ∈ row.secrets, secret.readableWith current = true) ∨
      ∃ change ∈ changes, change.id = row.id
  changes : ∀ change ∈ changes, ∀ secret ∈ change.secrets, secret.readableWith current = true

theorem Pending.adds (pending : Pending cur kind changes w)
    (adds : Adds kind (Stored.readableWith cur) w later) : Pending cur kind changes later where
  rows := by
    intro r stored isKind
    rcases adds r stored isKind with readable | ⟨old, wasStored, sameKey, same⟩
    · exact .inl readable
    · have oldKind := (congrArg fst sameKey).trans isKind
      have sameId : old.id = r.id := congrArg snd sameKey
      rw [← same, ← sameId]
      exact pending.rows old wasStored oldKind
  changes := pending.changes

theorem Pending.rewriteRow {rest : List Rewrite} (pending : Pending cur kind (change :: rest) w) :
    Pending cur kind rest { w with rows := rewriteRow w.rows kind change } where
  rows := by
    intro r stored isKind
    obtain ⟨old, wasStored, sameKey, ⟨-, same⟩ | ⟨elsewhere, same⟩⟩ := mem_rewriteRow stored
    · rw [same]
      exact .inl (pending.changes change (.head _))
    · have oldKind := (congrArg fst sameKey).trans isKind
      have sameId : old.id = r.id := congrArg snd sameKey
      rcases pending.rows old wasStored oldKind with readable | ⟨change', mem, atId⟩
      · rw [same]
        exact .inl readable
      · grind [Row.key]
  changes change' mem := pending.changes change' (.tail _ mem)

theorem Pending.rewrite (pending : Pending cur kind changes w) :
    Pending cur kind [] (w.rewrite kind changes) := by
  induction changes generalizing w with
  | nil => exact pending
  | cons change rest ih => exact ih pending.rewriteRow

theorem Pending.every (pending : Pending cur kind [] w) :
    w.Every kind (Stored.readableWith cur) := by
  intro r stored isKind
  rcases pending.rows r stored isKind with readable | ⟨change, mem, -⟩
  · exact readable
  · cases mem

theorem pending_of_reads (isPrimary : ring.primary = some cur) (reads : w.Every kind ring.reads) :
    Pending cur kind ((w.rowsOf kind).filterMap (Row.reencrypted ring)) w where
  rows := by
    intro r stored isKind
    have settles := Keyring.reencryptAll_of_reads isPrimary (reads r stored isKind)
    cases changed : ring.reencryptAll r.secrets with
    | none => exact .inl (settles.2 changed)
    | some secrets =>
      refine .inr ⟨⟨r.id, secrets, r.options⟩, mem_filterMap.mpr ⟨r, ?_, ?_⟩, rfl⟩
      · exact (mem_select _ _ _).mpr ⟨stored, decide_eq_true isKind⟩
      · rw [Row.reencrypted, changed]
        rfl
  changes := by
    intro change mem
    obtain ⟨r, isRow, changed⟩ := mem_filterMap.mp mem
    obtain ⟨stored, isKind⟩ := (mem_select _ _ _).mp isRow
    obtain ⟨secrets, done, rfl⟩ := Option.map_eq_some_iff.mp changed
    exact (Keyring.reencryptAll_of_reads isPrimary
      (reads r stored (of_decide_eq_true isKind))).1 secrets done

theorem Pending.stores {part : List Rewrite} (pending : Pending cur kind changes w)
    (among : ∀ change ∈ part, change ∈ changes) :
    ∀ kind' secrets, (kind', secrets) ∈ (Statement.rewrite kind part).stores →
      ∀ secret ∈ secrets, secret.readableWith cur = true := by
  intro kind' secrets stored
  obtain ⟨change, mem, same⟩ := mem_map.mp stored
  cases same
  exact pending.changes change (among change mem)

theorem Progress.finish (progress : Progress ring cur fin hist w)
    (selected : hist.any (selectsKind kind) = true) (pending : Pending cur kind [] w) :
    Progress ring cur (kind :: fin) hist w where
  probed := progress.probed
  reads := progress.reads
  selected := forall_mem_cons.mpr ⟨selected, progress.selected⟩
  settled := forall_mem_cons.mpr ⟨pending.every, progress.settled⟩

theorem rewriteRows_rotates (rotates : t.rotates = some (ring, cur))
    (progress : Progress ring cur fin hist w) (selected : hist.any (selectsKind kind) = true)
    (pending : Pending cur kind changes w) :
    Rotates t (fun seen _ reached => Progress ring cur (kind :: fin) seen reached)
      hist (rewriteRows kind changes) w := by
  induction changes generalizing hist w with
  | nil => exact progress.finish selected pending
  | cons change rest ih =>
    intro later relied _
    have relied := relied ring cur rotates
    have pending := pending.adds ((relied kind).2 selected)
    refine ⟨nofun, ih ?_ ?_ pending.rewriteRow⟩
    · refine (progress.relied relied).own (primary_of_rotates rotates) _ _ (pending.stores ?_)
      exact fun change' mem => mem_singleton.mp mem ▸ (.head _)
    · rw [any_cons, selected, Bool.or_true]

theorem Progress.select (isPrimary : ring.primary = some cur)
    (progress : Progress ring cur fin hist w) (kind : Kind) :
    Progress ring cur fin (⟨.selectRows kind, w.rowsOf kind⟩ :: hist) w ∧
      any (⟨.selectRows kind, w.rowsOf kind⟩ :: hist) (selectsKind kind) = true ∧
      Pending cur kind ((w.rowsOf kind).filterMap (Row.reencrypted ring)) w := by
  refine ⟨progress.own isPrimary (.selectRows kind) _ nofun, ?_, ?_⟩
  · rw [any_cons, selectsKind, decide_eq_true rfl, Bool.true_or]
  · exact pending_of_reads isPrimary (progress.reads kind)

variable (rotates : t.rotates = some (ring, cur))
include rotates

theorem rewriteKind_rotates (kind : Kind) (progress : Progress ring cur fin hist w) :
    Rotates t (fun seen _ reached => Progress ring cur (kind :: fin) seen reached)
      hist (rewriteKind ring kind) w := by
  intro later relied _
  obtain ⟨progress, selected, pending⟩ := (progress.relied (relied ring cur rotates)).select
    (primary_of_rotates rotates) kind
  exact ⟨nofun, rewriteRows_rotates rotates progress selected pending⟩

theorem rewriteHostKeys_rotates (progress : Progress ring cur fin hist w) :
    Rotates t (fun seen _ reached => Progress ring cur (.hostKey :: fin) seen reached)
      hist (rewriteHostKeys ring) w := by
  simp only [rewriteHostKeys, act_bind]
  intro later relied _
  obtain ⟨progress, selected, pending⟩ := (progress.relied (relied ring cur rotates)).select
    (primary_of_rotates rotates) .hostKey
  refine ⟨by rintro _ ⟨⟩, ?_⟩
  dsimp only
  split
  case isTrue none_left =>
    rw [show (later.rowsOf .hostKey).filterMap (Row.reencrypted ring) = [] from
      isEmpty_iff.mp none_left] at pending
    exact progress.finish selected pending
  case isFalse =>
    intro last relied _
    have relied := relied ring cur rotates
    have pending := pending.adds ((relied .hostKey).2 selected)
    have progress := (progress.relied relied).own (primary_of_rotates rotates) _ ()
      (pending.stores fun _ mem => mem)
    refine ⟨by rintro _ ⟨⟩, progress.finish ?_ pending.rewrite⟩
    rw [any_cons, selected, Bool.or_true]

theorem rewriteAll_rotates (progress : Progress ring cur [] hist w) :
    Rotates t (fun seen _ reached =>
        Progress ring cur [.hostKey, .secretBackend, .sshClientKey, .target] seen reached)
      hist (rewriteAll ring) w := by
  refine (rewriteKind_rotates rotates .target progress).seq fun _ _ _ first => ?_
  refine (rewriteKind_rotates rotates .sshClientKey first).seq fun _ _ _ second => ?_
  refine (rewriteKind_rotates rotates .secretBackend second).seq fun _ _ _ third => ?_
  exact rewriteHostKeys_rotates rotates third

theorem backfillWith_rotates (progress : Progress ring cur [] hist w) :
    Rotates t (fun _ _ _ => True) hist (backfillWith ring cur []) w := by
  simp only [backfillWith, act_bind]
  intro later relied _
  refine ⟨by rintro _ ⟨⟩, ?_⟩
  have progress := (progress.relied (relied ring cur rotates)).own (primary_of_rotates rotates)
    .aliveNodes later.aliveNodes (by rintro _ _ ⟨⟩)
  dsimp only
  split
  · trivial
  · refine (rewriteAll_rotates rotates progress).seq fun seen _ reached progress => ?_
    intro last relied _
    refine ⟨?_, trivial⟩
    rintro fp ⟨⟩
    refine ⟨ring, cur, rotates, rfl, fun kind => ?_⟩
    have fin : kind ∈ [Kind.hostKey, .secretBackend, .sshClientKey, .target] := by
      cases kind <;> decide
    exact (progress.relied (relied ring cur rotates)).settled kind fin

end

theorem advanceKeyState_rotates (t : Task) (ring : Keyring) (rounds : Nat) (w : World) :
    Rotates t (fun seen _ _ => ∀ kind, seen.any (probes kind) = false) []
      (advanceKeyState ring rounds) w := by
  have perf : (advanceKeyState ring rounds).Performs fun stmt =>
      (∀ fp, stmt ≠ .clearRetiring fp) ∧
        ∀ kind (out : stmt.Outcome), probes kind ⟨stmt, out⟩ = false :=
    performs_advanceKeyState ring rounds ⟨nofun, fun _ _ => rfl⟩ fun _ _ => ⟨nofun, fun _ _ => rfl⟩
  have follows : (advanceKeyState ring rounds).Follows
      (fun seen stmt => ∀ reached, True → (rotation t).requires seen stmt reached)
      (fun seen _ => ∀ kind, seen.any (probes kind) = false) [] := by
    refine perf.follows_keeping (fun _ _ other _ _ fp same => ?_)
      (fun seen ev other none_probed kind => ?_) fun _ => rfl
    · exact absurd same (other.1 fp)
    · rw [any_cons, other.2 kind ev.2, none_probed kind]
      rfl
  exact meets_of_follows (follows.imp (fun _ _ ok => ok) fun _ _ none_probed _ => none_probed)

theorem backfill_rotates (ring : Keyring) (rounds : Nat) (w : World) :
    Rotates (.backfill ring rounds) (fun _ _ _ => True) []
      (backfillCredentialEncryption ring rounds) w := by
  refine (advanceKeyState_rotates _ ring rounds w).seq fun seen pos reached none_probed => ?_
  cases pos with
  | none => trivial
  | some pos =>
    cases isPrimary : ring.primary with
    | none =>
      refine performs_rotates ?_
      refine (performs_probeUndecryptable ring allKinds fun _ => nofun).bind fun _ => ?_
      cases pos <;> trivial
    | some cur =>
      have rotates : (Task.backfill ring rounds).rotates = some (ring, cur) := by
        rw [Task.rotates, isPrimary]
        rfl
      have known : Known ring seen reached := by
        intro kind well
        have none_here := none_probed kind
        rw [any_probes_of_probesWell well] at none_here
        cases none_here
      refine (probeUndecryptable_rotates rotates allKinds known).seq
        fun seen undecryptable reached probed => ?_
      cases pos with
      | behind => trivial
      | inSync =>
        cases undecryptable with
        | cons first rest =>
          -- the retiring key stays
          refine performs_rotates (Performs.bind ?_ fun _ => trivial)
          exact performs_backfillWith ring cur (first :: rest) nofun (fun _ => nofun)
            (fun _ _ => nofun) fun none_left => by cases none_left
        | nil =>
          obtain ⟨known, -, wells⟩ := probed
          have well : ∀ kind, seen.any (probesWell ring kind) = true := fun kind =>
            wells rfl kind (by cases kind <;> decide)
          refine (backfillWith_rotates rotates ?_).seq fun _ _ _ _ => trivial
          exact ⟨fun kind => any_probes_of_probesWell (well kind),
            fun kind => known kind (well kind), nofun, nofun⟩

theorem program_rotates (t : Task) (w : World) :
    Rotates t (fun _ _ _ => True) [] (system.program t) w := by
  cases t with
  | backfill ring rounds => exact (backfill_rotates ring rounds w).seq fun _ _ _ _ => trivial
  | advance ring rounds =>
    exact performs_rotates ((performs_advanceKeyState ring rounds nofun fun _ _ => nofun).bind
      fun _ => trivial)
  | updateTarget ring id secrets options columns
  | updateSecretBackend ring id secrets options columns | updateSshClientKey id columns =>
    refine performs_rotates ⟨nofun, fun found => ?_⟩
    cases found with
    | none => trivial
    | some r => exact ⟨nofun, fun _ => trivial⟩
  | _ => exact performs_rotates ⟨nofun, fun _ => trivial⟩

/-! ### Rotations in a run -/

def keepsReadable (thread : Thread Task Statement Statement.Outcome Answer)
    (statement : Statement) : Bool :=
  match thread.task.rotates with
  | none => true
  | some (ring, current) =>
    thread.program.head.isNone || statement.stores.all fun (kind, secrets) =>
      (!thread.history.any (probes kind) || secrets.all ring.reads) &&
        (!thread.history.any (selectsKind kind) ||
          secrets.all (Stored.readableWith current))

def KeepingReadable (config : Config) (move : Move Task) : Prop :=
  Config.Against system (fun thread _ statement => keepsReadable thread statement = true) config
    move

instance KeepingReadable.decidable (config : Config) (move : Move Task) :
    Decidable (KeepingReadable config move) :=
  Config.Against.decidable system _ config move

theorem relies_of_keepsReadable {th : Thread Task Statement Statement.Outcome Answer}
    {stmt waiting : Statement} (keeps : keepsReadable th stmt = true)
    (underWay : th.program.head = some waiting) (rotates : th.task.rotates = some (ring, cur)) :
    Relies ring cur th.history w (execute stmt w).2 := by
  rw [keepsReadable, rotates, underWay] at keeps
  have stored := all_eq_true.mp keeps
  intro kind
  constructor
  · grind [adds_execute]
  · grind [adds_execute]

theorem readable_of_clearRetiring {ms : List (Move Task)}
    (along : Along system KeepingReadable (initial w) ms) {m : Move Task} {fp : String}
    (perf : ((initial w).run system ms).performed system m = some (t, .clearRetiring fp)) :
    ∃ ring cur, t.rotates = some (ring, cur) ∧ fp = cur.fingerprint ∧
      ∀ kind, ((initial w).run system ms).state.Every kind (Stored.readableWith cur) := by
  have meet := (run_meets_under (fun _ => True) rotation (fun _ _ => True)
    (fun t s _ => program_rotates t s) KeepingReadable (fun _ _ _ _ _ _ _ _ _ _ _ => trivial)
    (fun _ _ _ _ _ _ _ _ _ => trivial) (fun _ _ _ _ _ _ _ _ _ _ => trivial) ?_ w ms along trivial).2
  · obtain ⟨hist, next, mem⟩ := mem_of_performed system perf
    exact (meet _ mem trivial _ ((rotation t).refl _ _ _) trivial).1 fp rfl
  · intro s pre t hist stmt next post log perm ready _ other mem _ waiting underWay
    refine ⟨trivial, fun ring cur rotates => ?_⟩
    exact relies_of_keepsReadable (perm.admits system ready other mem) underWay rotates

theorem clears_of_execute (set : w.encryptionKeyFp = none → w.retiringKeyFp = none)
    (was : w.retiringKeyFp ≠ none) (gone : (execute stmt w).2.retiringKeyFp = none) :
    ∃ cur, stmt = .clearRetiring cur ∧ w.encryptionKeyFp = some cur ∧
      (execute stmt w).2.encryptionKeyFp = some cur ∧ (execute stmt w).2.rows = w.rows := by
  cases stmt with
  | casKeyState cur own =>
    rw [execute, casKeyState] at gone
    split at gone
    case isTrue same => grind
    case isFalse => exact absurd gone was
  | clearRetiring cur =>
    rw [execute, clearRetiring] at gone ⊢
    split at gone
    case isTrue same =>
      rw [if_pos same]
      exact ⟨cur, rfl, same, same, rfl⟩
    case isFalse => exact absurd gone was
  | _ => exact absurd gone was

theorem unset_run (set : w.encryptionKeyFp = none → w.retiringKeyFp = none)
    (ms : List (Move Task)) :
    ((initial w).run system ms).state.encryptionKeyFp = none →
      ((initial w).run system ms).state.retiringKeyFp = none := by
  refine run_state_invariant (fun w => w.encryptionKeyFp = none → w.retiringKeyFp = none) ?_
    (initial w) ms set
  intro stmt w set
  cases stmt with
  | casKeyState cur own =>
    rw [show system.execute (.casKeyState cur own) w = w.casKeyState cur own from
      rfl, casKeyState]
    split
    · rintro ⟨⟩
    · exact set
  | clearRetiring cur =>
    rw [show system.execute (.clearRetiring cur) w = ((), w.clearRetiring cur) from
      rfl, clearRetiring]
    split
    · exact fun _ => rfl
    · exact set
  | _ => exact set

theorem performed_of_step {Value : Type} {c : Config} {m : Move Task}
    (v : World → Value) (changed : v (c.step system m).state ≠ v c.state) :
    ∃ t stmt, c.performed system m = some (t, stmt) ∧
      (c.step system m).state = (execute stmt c.state).2 := by
  cases perf : c.performed system m with
  | none => exact absurd (congrArg v (state_step_of_idle system perf)) changed
  | some performed => exact ⟨performed.1, performed.2, rfl, state_step system perf⟩

/-- In every run: the key of the cluster moves only to the primary key of a node whose ring has the
old one; what the loop on it answers agrees with the row it read last, and its rounds are not used
up unless the key moved as often; and where the others keep what runs rely on, everything stored is
readable with the key of the cluster alone when the retiring key goes. -/
theorem rotation_safe (world : World)
    (set : world.encryptionKeyFp = none → world.retiringKeyFp = none) (moves : List (Move Task)) :
    let reached := (Config.initial world).run system moves
    (∀ m, (reached.step system m).state.encryptionKeyFp ≠ reached.state.encryptionKeyFp →
        ∃ task statement ring k, reached.performed system m = some (task, statement) ∧
          task.advancing = some ring ∧ ring.primary = some k ∧
          (reached.step system m).state.encryptionKeyFp = some k.fingerprint ∧
          ∀ fp ∈ reached.state.encryptionKeyFp, ring.contains fp = true) ∧
      (∀ th ∈ reached.threads, ∀ ring rounds ans,
        th.task = .advance ring rounds → th.result = some ans →
        ∃ res, ans = .advanced res ∧ (∀ pos ∈ res, Agrees ring th.history pos) ∧
          (res = none → rounds ≤ moved reached.log)) ∧
      (Config.Along system KeepingReadable (Config.initial world) moves → ∀ m,
        reached.state.retiringKeyFp ≠ none →
        (reached.step system m).state.retiringKeyFp = none →
        ∃ k, (reached.step system m).state.encryptionKeyFp = some k.fingerprint ∧
          ∀ r ∈ (reached.step system m).state.rows.rows, ∀ secret ∈ r.secrets,
            secret.readableWith k = true) := by
  intro reached
  refine ⟨?_, ?_, ?_⟩
  · intro m changed
    obtain ⟨task, statement, perf, post⟩ := performed_of_step encryptionKeyFp changed
    rw [post] at changed ⊢
    obtain ⟨ring, k, advancing, isPrimary, isKey, contains⟩ := moves_of_step perf changed
    exact ⟨task, statement, ring, k, perf, advancing, isPrimary, isKey, contains⟩
  · intro th mem ring rounds ans isTask isResult
    have follows := run_follows maySwap AdvancedTask program_follows_maySwap world moves th mem
    rw [Thread.program_of_result isResult] at follows
    obtain ⟨res, isAnswer, agrees, refused⟩ := follows ring rounds isTask
    refine ⟨res, isAnswer, agrees, fun usedUp => ?_⟩
    rw [← refused usedUp]
    exact (outpaced_run world moves th mem).1
  · intro along m was gone
    have changed : (reached.step system m).state.retiringKeyFp ≠ reached.state.retiringKeyFp :=
      fun same => was (same.symm.trans gone)
    obtain ⟨task, statement, perf, post⟩ := performed_of_step retiringKeyFp changed
    rw [post] at gone ⊢
    obtain ⟨current, rfl, -, isCurrent, sameRows⟩ :=
      clears_of_execute (unset_run set moves) was gone
    obtain ⟨ring, k, -, rfl, readable⟩ := readable_of_clearRetiring along perf
    refine ⟨k, isCurrent, fun r stored => ?_⟩
    rw [sameRows] at stored
    exact readable r.kind r stored rfl

def oldKey : MasterKey := ⟨"old", 1⟩

def newKey : MasterKey := ⟨"new", 2⟩

def rotating : Keyring where
  primary := some newKey
  retired := [oldKey]
  distinct := by decide

def underOldKey : World where
  rows := (Sql.Table.empty.insert
    ⟨.target, 1, [.envelope oldKey "hunter2"], "host: first", "first"⟩).2
  encryptionKeyFp := some "old"
  retiringKeyFp := none
  nodes := Sql.Table.empty
  clock := 0

def rotatedAlone : List (Move Task) :=
  .start (.backfill rotating 1) :: advances 0 9 ++
    .start (.create rotating ⟨.target, 2, [.plain "correct horse"], "host: second", "second"⟩) ::
    .advance 1 :: advances 0 3

theorem rotated_alone_is_readable :
    ∃ key, (((Config.initial underOldKey).run system rotatedAlone).step system
          (.advance 0)).state.encryptionKeyFp = some key.fingerprint ∧
      ∀ row ∈ (((Config.initial underOldKey).run system rotatedAlone).step system
          (.advance 0)).state.rows.rows,
        ∀ secret ∈ row.secrets, secret.readableWith key = true :=
  (rotation_safe underOldKey (by decide +kernel) rotatedAlone).2.2 (by decide +kernel)
    (.advance 0) (by decide +kernel) (by decide +kernel)

def joinedLate : List (Move Task) :=
  .start (.backfill rotating 1) :: advances 0 9 ++
    .start (.heartbeat 2 (.single oldKey)) :: .advance 1 ::
    .start (.create (.single oldKey)
      ⟨.target, 2, [.plain "correct horse"], "host: second", "second"⟩) ::
    .advance 2 :: advances 0 3

theorem joined_late_is_unreadable :
    ((Config.initial underOldKey).run system joinedLate).state.retiringKeyFp = some "old" ∧
      (((Config.initial underOldKey).run system joinedLate).step system
        (.advance 0)).state.retiringKeyFp = none ∧
      (((Config.initial underOldKey).run system joinedLate).step system
        (.advance 0)).state.encryptionKeyFp = some "new" ∧
      ((((Config.initial underOldKey).run system joinedLate).step system
        (.advance 0)).state.rows.rows.flatMap Row.secrets).filter
          (fun secret => !secret.readableWith newKey) = [.envelope oldKey "correct horse"] := by
  decide +kernel

end Warpgate.Encryption
