import Mathlib.Data.List.Induction
import Mathlib.Data.List.Nodup
import Mathlib.Data.List.Perm.Basic
import WirelessStation.Simulation.Watching

/-! # Watches from their beginning to their end

Which watches are registered can be read off the commands alone: those that were added and that no
later command ends (`registered`).  As long as numbers last the list holds exactly these, in the
order in which they were added (`after_eq`), and so what comes of a command is what the registered
watches make of it (`Fits`).  Whoever is owed a cleanup either had it or is still registered
(`cleaned_append_due`), so that nobody is left out and nobody has it twice once the list is dropped.

* `watches_exact`: numbers, calls and cleanups from the first command to the end of the list. -/

namespace WirelessStation

namespace Watchlist

variable {α : Type}

theorem idAfter_of_lt {id : Nat} (h : id + 1 < UInt32.size) : idAfter id = id + 1 :=
  if_pos h

/-- Removal ends the watch with a number, if there is one. -/
theorem remove_eq (l : Watchlist α) (distinct : (l.watches.map (·.id)).Nodup) (id : Nat) :
    l.remove id =
      (decide (id ∈ l.watches.map (·.id)),
        { l with watches := l.watches.filter fun w => w.id != id },
        cleanups (l.watches.filter fun w => w.id == id)) := by
  unfold remove find?
  split
  next absent =>
    have other : ∀ w ∈ l.watches, w.id ≠ id := by simpa using absent
    have unlisted : id ∉ l.watches.map (·.id) := by simpa using other
    have kept : l.watches.filter (fun w => w.id != id) = l.watches :=
      List.filter_eq_self.2 (by simpa using other)
    have ended : l.watches.filter (fun w => w.id == id) = [] :=
      List.filter_eq_nil_iff.2 (by simpa using other)
    rw [decide_eq_false unlisted, kept, ended]
    rfl
  next w found =>
    obtain ⟨itself, before, after, list, first⟩ := List.find?_eq_some_iff_append.1 found
    obtain rfl : w.id = id := by simpa using itself
    rw [list, List.map_append, List.map_cons, List.nodup_append, List.nodup_cons] at distinct
    have ahead : ∀ v ∈ before, v.id ≠ w.id := by simpa using first
    have behind : ∀ v ∈ after, v.id ≠ w.id := by
      intro v hv same
      exact distinct.2.1.1 (List.mem_map.2 ⟨v, hv, same⟩)
    have erased : (before ++ w :: after).eraseP (fun v => v.id == w.id) = before ++ after := by
      rw [List.eraseP_append_right _ (by simpa using ahead), List.eraseP_cons_of_pos (by simp)]
    have kept : (before ++ w :: after).filter (fun v => v.id != w.id) = before ++ after := by
      rw [List.filter_append, List.filter_cons_of_neg (by simp),
        List.filter_eq_self.2 (by simpa using ahead), List.filter_eq_self.2 (by simpa using behind)]
    have ended : (before ++ w :: after).filter (fun v => v.id == w.id) = [w] := by
      rw [List.filter_append, List.filter_cons_of_pos (by simp),
        List.filter_eq_nil_iff.2 (by simpa using ahead),
        List.filter_eq_nil_iff.2 (by simpa using behind), List.nil_append]
    have listed : w.id ∈ l.watches.map (·.id) := by simp [list]
    rw [decide_eq_true listed, list, erased, kept, ended]

end Watchlist

namespace Simulation.Listener

open Watchlist (cleanups)
open scoped List

/-! ### What commands say -/

/-- How many watches commands add. -/
def additions (commands : List Command) : Nat :=
  commands.countP fun
    | .add _ _ => true
    | _ => false

/-- How many events commands tell. -/
def notifications (commands : List Command) : Nat :=
  commands.countP fun
    | .notify _ => true
    | _ => false

/-- Who is owed a cleanup. -/
def owed (commands : List Command) : List String :=
  commands.filterMap fun
    | .add label true => some label
    | _ => none

/-- Whether a command ends the watch with a number. -/
def ends (id : Nat) : Command → Bool
  | .remove other => other == id
  | .clear | .renew => true
  | .add _ _ | .notify _ => false

/-- The watches that commands add and do not end, if numbers are given from `next` on.  Each of them
has heard every event since. -/
def registeredFrom (next : Nat) : List Command → List (Watch Listener)
  | [] => []
  | .add label hasCleanup :: later =>
    let rest := registeredFrom (next + 1) later
    if later.any (ends next) then rest
    else ⟨next, ⟨label, notifications later⟩, hasCleanup⟩ :: rest
  | .remove _ :: later | .notify _ :: later | .clear :: later | .renew :: later =>
    registeredFrom next later

/-- The watches that are registered after some commands. -/
def registered (commands : List Command) : List (Watch Listener) :=
  registeredFrom 1 commands

/-- What a command makes of a watch that it does not end. -/
def told (c : Command) (w : Watch Listener) : Watch Listener :=
  match c with
  | .notify _ => { w with watcher := w.watcher.hear }
  | _ => w

/-- The watch that a command adds under a number. -/
def added (id : Nat) : Command → List (Watch Listener)
  | .add label hasCleanup => [⟨id, { label }, hasCleanup⟩]
  | _ => []

/-- What watches hear of a command. -/
def calls (c : Command) (watches : List (Watch Listener)) : List Trace :=
  match c with
  | .notify event => watches.map fun w => .called w.watcher.hear event
  | _ => []

theorem additions_concat (commands : List Command) (c : Command) :
    additions (commands ++ [c]) = additions commands + (added 0 c).length := by
  cases c <;> simp [additions, added]

/-- One more command ends some watches, lets the others hear what it tells, and adds one behind them
if it is an addition. -/
theorem registeredFrom_concat (next : Nat) (commands : List Command) (c : Command) :
    registeredFrom next (commands ++ [c]) =
      ((registeredFrom next commands).filter fun w => !ends w.id c).map (told c) ++
        added (next + additions commands) c := by
  induction commands generalizing next with
  | nil => cases c <;> rfl
  | cons first later ih =>
    cases first with
    | add label hasCleanup =>
      have count : additions (.add label hasCleanup :: later) = additions later + 1 := by
        simp [additions]
      rw [count, Nat.add_comm _ 1, ← Nat.add_assoc]
      simp only [List.cons_append, registeredFrom, ih, List.any_append, List.any_cons, List.any_nil,
        Bool.or_false]
      cases before : later.any (ends next) with
      | true => simp
      | false =>
        cases last : ends next c with
        | true => simp [last]
        | false => cases c <;> simp [last, told, hear, notifications]
    | remove | notify | clear | renew => exact ih next

theorem registered_concat (commands : List Command) (c : Command) :
    registered (commands ++ [c]) =
      ((registered commands).filter fun w => !ends w.id c).map (told c) ++
        added (additions commands + 1) c := by
  rw [registered, registeredFrom_concat, Nat.add_comm 1]
  rfl

/-- Numbers are given in turn, one to each addition. -/
theorem ids_registeredFrom_sublist (next : Nat) (commands : List Command) :
    ((registeredFrom next commands).map (·.id)).Sublist
      (List.range' next (additions commands)) := by
  induction commands generalizing next with
  | nil => exact .slnil
  | cons first later ih =>
    cases first with
    | add label hasCleanup =>
      have count : additions (.add label hasCleanup :: later) = additions later + 1 := by
        simp [additions]
      rw [count, List.range'_succ, registeredFrom]
      split
      · exact (ih (next + 1)).cons next
      · exact (ih (next + 1)).cons_cons next
    | remove | notify | clear | renew => exact ih next

theorem ids_registered_nodup (commands : List Command) :
    ((registered commands).map (·.id)).Nodup :=
  (ids_registeredFrom_sublist 1 commands).nodup List.nodup_range'

@[simp] theorem id_told (c : Command) (w : Watch Listener) : (told c w).id = w.id := by
  cases c <;> rfl

/-- Only events change a watch that stays. -/
theorem map_told {c : Command} (silent : ∀ event, c ≠ .notify event)
    (watches : List (Watch Listener)) : watches.map (told c) = watches := by
  cases c with
  | notify event => exact absurd rfl (silent event)
  | add | remove | clear | renew => exact List.map_id watches

/-- The watches that a command ends are those that are not registered any more. -/
theorem ended_eq (commands : List Command) (c : Command) :
    ((registered commands).filter fun w => ends w.id c) =
      (registered commands).filter fun w =>
        w.id ∉ (registered (commands ++ [c])).map (·.id) := by
  refine List.filter_congr fun w here => ?_
  have given : w.id ∈ List.range' 1 (additions commands) :=
    (ids_registeredFrom_sublist 1 commands).subset (List.mem_map_of_mem here)
  have old : w.id ≠ additions commands + 1 := by
    have := List.mem_range'_1.1 given
    omega
  have new : w.id ∉ (added (additions commands + 1) c).map (·.id) := by
    cases c <;> simp [added, old]
  have kept :
      w.id ∈ (((registered commands).filter fun w => !ends w.id c).map (told c)).map (·.id) ↔
        ends w.id c = false := by
    constructor
    · intro h
      obtain ⟨v, ⟨_, stays⟩, same⟩ :
          ∃ v, (v ∈ registered commands ∧ ends v.id c = false) ∧ v.id = w.id := by
        simpa using h
      rw [← same]
      exact stays
    · intro stays
      simpa using ⟨w, ⟨here, stays⟩, rfl⟩
  have gone : w.id ∉ (registered (commands ++ [c])).map (·.id) ↔ ends w.id c = true := by
    rw [registered_concat, List.map_append, List.mem_append, not_or, kept, Bool.not_eq_false]
    exact and_iff_left new
  rw [decide_eq_decide.2 gone, Bool.decide_coe]

/-! ### What comes of one command -/

section Step

variable (l : Watchlist Listener) (distinct : (l.watches.map (·.id)).Nodup) (c : Command)
include distinct

theorem watches_perform :
    (perform l c).2.2.watches =
      (l.watches.filter fun w => !ends w.id c).map (told c) ++ added l.nextId c := by
  cases c with
  | add => simp [perform, Watchlist.add, ends, added, map_told]
  | remove id =>
    simp only [perform, l.remove_eq distinct, ends, added, List.append_nil]
    rw [map_told (by simp)]
    exact List.filter_congr fun w _ => by rw [bne, Bool.beq_comm]
  | notify => simp [perform, Watchlist.map, ends, told, added]
  | clear | renew => simp [perform, Watchlist.clear, ends, added]

/-- Cleanups are for the watches that a command ends. -/
theorem trace_perform :
    (perform l c).2.1 =
      calls c l.watches ++
        cleanedUp (cleanups (l.watches.filter fun w => ends w.id c)) := by
  cases c with
  | remove id =>
    have same : (l.watches.filter fun w => id == w.id) = l.watches.filter fun w => w.id == id :=
      List.filter_congr fun w _ => Bool.beq_comm
    simp only [perform, l.remove_eq distinct, ends, calls, List.nil_append, same]
  | add | notify | clear | renew =>
    simp [perform, Watchlist.map, Watchlist.watchers, Watchlist.clear, calls, ends, cleanedUp,
      cleanups]

theorem nextId_perform :
    (perform l c).2.2.nextId =
      match c with
      | .add _ _ => Watchlist.idAfter l.nextId
      | .renew => 1
      | _ => l.nextId := by
  cases c with
  | remove id => simp only [perform, l.remove_eq distinct]
  | add | notify | clear | renew => rfl

end Step

/-! ### What comes of all commands -/

/-- The list after some commands. -/
def after (commands : List Command) : Watchlist Listener :=
  commands.foldl (fun l c => (perform l c).2.2) {}

/-- What a list answers to a command that some others came before. -/
def answer (earlier : List Command) (c : Command) : Answer :=
  (perform (after earlier) c).1

/-- What a command that some others came before makes happen on the side of the watchers. -/
def trace (earlier : List Command) (c : Command) : List Trace :=
  (perform (after earlier) c).2.1

/-- The number in an answer. -/
def number? : Answer → Option Nat
  | .id id => some id
  | _ => none

/-- Who has a cleanup. -/
def cleanedBy (happened : List Trace) : List String :=
  happened.filterMap fun
    | .cleanedUp label => some label
    | .called _ _ => none

/-- What comes of commands, one after the other. -/
def outcomesFrom (l : Watchlist Listener) : List Command → List (Answer × List Trace)
  | [] => []
  | c :: later => ((perform l c).1, (perform l c).2.1) :: outcomesFrom (perform l c).2.2 later

/-- What comes of the commands to a new list. -/
def outcomes (commands : List Command) : List (Answer × List Trace) :=
  outcomesFrom {} commands

/-- The numbers that commands had as answers. -/
def numbers (commands : List Command) : List Nat :=
  (outcomes commands).flatMap fun outcome => (number? outcome.1).toList

/-- Who had a cleanup because of commands. -/
def cleaned (commands : List Command) : List String :=
  (outcomes commands).flatMap fun outcome => cleanedBy outcome.2

theorem after_concat (commands : List Command) (c : Command) :
    after (commands ++ [c]) = (perform (after commands) c).2.2 := by
  simp [after]

theorem outcomesFrom_concat (l : Watchlist Listener) (commands : List Command) (c : Command) :
    outcomesFrom l (commands ++ [c]) =
      outcomesFrom l commands ++
        outcomesFrom (commands.foldl (fun l c => (perform l c).2.2) l) [c] := by
  induction commands generalizing l with
  | nil => rfl
  | cons first later ih => simp only [List.cons_append, outcomesFrom, ih, List.foldl_cons]

theorem outcomes_concat (commands : List Command) (c : Command) :
    outcomes (commands ++ [c]) = outcomes commands ++ [(answer commands c, trace commands c)] :=
  outcomesFrom_concat {} commands c

theorem numbers_concat (commands : List Command) (c : Command) :
    numbers (commands ++ [c]) = numbers commands ++ (number? (answer commands c)).toList := by
  simp [numbers, outcomes_concat]

theorem cleaned_concat (commands : List Command) (c : Command) :
    cleaned (commands ++ [c]) = cleaned commands ++ cleanedBy (trace commands c) := by
  simp [cleaned, outcomes_concat]

/-- Commands to one list, for which there are numbers enough. -/
structure Lasts (commands : List Command) : Prop where
  single : .renew ∉ commands
  few : additions commands < UInt32.size - 1

theorem Lasts.of_prefix {earlier commands : List Command} (h : Lasts commands)
    (first : earlier <+: commands) : Lasts earlier where
  single := fun there => h.single (first.subset there)
  few := Nat.lt_of_le_of_lt first.sublist.countP_le h.few

/-- As long as numbers last, the list holds the watches that the commands say. -/
theorem Lasts.after_eq {commands : List Command} (h : Lasts commands) :
    after commands = ⟨additions commands + 1, registered commands⟩ := by
  induction commands using List.reverseRecOn with
  | nil => rfl
  | append_singleton earlier c ih =>
    have before := ih (h.of_prefix (List.prefix_append earlier [c]))
    have distinct : ((after earlier).watches.map (·.id)).Nodup := by
      rw [before]
      exact ids_registered_nodup earlier
    have watches : (after (earlier ++ [c])).watches = registered (earlier ++ [c]) := by
      rw [after_concat, watches_perform _ distinct, before, registered_concat]
    have nextId : (after (earlier ++ [c])).nextId = additions (earlier ++ [c]) + 1 := by
      rw [after_concat, nextId_perform _ distinct, before, additions_concat]
      cases c with
      | add label hasCleanup =>
        have few := h.few
        rw [additions_concat] at few
        exact Watchlist.idAfter_of_lt (Nat.add_lt_of_lt_sub few)
      | renew => exact absurd (List.mem_append_right _ (List.mem_singleton_self _)) h.single
      | remove | notify | clear => rfl
    rw [← nextId, ← watches]

namespace Lasts

variable {commands : List Command} (h : Lasts commands)
include h

theorem answer_add (label : String) (hasCleanup : Bool) :
    answer commands (.add label hasCleanup) = .id (additions commands + 1) := by
  rw [answer, h.after_eq]
  rfl

theorem answer_remove (id : Nat) :
    answer commands (.remove id) = .flag (decide (id ∈ (registered commands).map (·.id))) := by
  have found := Watchlist.remove_eq ⟨additions commands + 1, registered commands⟩
    (ids_registered_nodup commands) id
  simp only [answer, h.after_eq, perform, found]

theorem trace_eq (c : Command) :
    trace commands c =
      calls c (registered commands) ++
        cleanedUp (cleanups ((registered commands).filter fun w => ends w.id c)) := by
  rw [trace, h.after_eq]
  exact trace_perform _ (ids_registered_nodup commands) c

end Lasts

theorem Lasts.numbers_eq {commands : List Command} (h : Lasts commands) :
    numbers commands = List.range' 1 (additions commands) := by
  induction commands using List.reverseRecOn with
  | nil => rfl
  | append_singleton earlier c ih =>
    have before := h.of_prefix (List.prefix_append earlier [c])
    rw [numbers_concat, ih before, additions_concat]
    cases c with
    | add label hasCleanup =>
      rw [before.answer_add, added, List.length_singleton, List.range'_concat, Nat.one_mul,
        Nat.add_comm]
      rfl
    | remove id =>
      rw [before.answer_remove]
      exact List.append_nil _
    | notify | clear | renew => exact List.append_nil _

/-- The cleanups that are due when these watches end, by their labels. -/
def due (watches : List (Watch Listener)) : List String :=
  (cleanups watches).map (·.label)

theorem due_append (some others : List (Watch Listener)) :
    due (some ++ others) = due some ++ due others := by
  simp [due, cleanups]

theorem due_map_told (c : Command) (watches : List (Watch Listener)) :
    due (watches.map (told c)) = due watches := by
  cases c with
  | notify event => simp [due, cleanups, told, hear, List.filter_map, Function.comp_def]
  | add | remove | clear | renew => rw [map_told (by simp)]

theorem cleanedBy_calls_append (c : Command) (watches : List (Watch Listener))
    (ended : List Listener) :
    cleanedBy (calls c watches ++ cleanedUp ended) = ended.map (·.label) := by
  cases c <;> simp [cleanedBy, calls, cleanedUp]

theorem due_perm {some others : List (Watch Listener)} (h : some.Perm others) :
    (due some).Perm (due others) :=
  ((h.filter _).map _).map _

theorem owed_concat (commands : List Command) (c : Command) (id : Nat) :
    owed (commands ++ [c]) = owed commands ++ due (added id c) := by
  cases c with
  | add label hasCleanup => cases hasCleanup <;> simp [owed, due, cleanups, added]
  | remove | notify | clear | renew => simp [owed, due, cleanups, added]

/-- Whoever is owed a cleanup had it, or is registered. -/
theorem Lasts.cleaned_append_due {commands : List Command} (h : Lasts commands) :
    (cleaned commands ++ due (registered commands)).Perm (owed commands) := by
  induction commands using List.reverseRecOn with
  | nil => exact .nil
  | append_singleton earlier c ih =>
    have before := h.of_prefix (List.prefix_append earlier [c])
    let ended := (registered earlier).filter fun w => ends w.id c
    let kept := (registered earlier).filter fun w => !ends w.id c
    let new := added (additions earlier + 1) c
    have list : due (registered (earlier ++ [c])) = due kept ++ due new := by
      rw [registered_concat, due_append, due_map_told]
    have had : cleaned (earlier ++ [c]) = cleaned earlier ++ due ended := by
      rw [cleaned_concat, before.trace_eq, cleanedBy_calls_append]
      rfl
    calc cleaned (earlier ++ [c]) ++ due (registered (earlier ++ [c]))
        = cleaned earlier ++ due (ended ++ kept) ++ due new := by
          rw [had, list, due_append]
          simp only [List.append_assoc]
      _ ~ cleaned earlier ++ due (registered earlier) ++ due new :=
          ((due_perm (List.filter_append_perm _ _)).append_left _).append_right _
      _ ~ owed earlier ++ due new := (ih before).append_right _
      _ = owed (earlier ++ [c]) := (owed_concat earlier c _).symm

/-- All that is to come of a command that some others came before. -/
structure Fits (earlier : List Command) (c : Command) : Prop where
  /-- A new watch gets a number that is not zero and that no watch had, and comes last. -/
  numbered : ∀ label hasCleanup, c = .add label hasCleanup → ∃ id, answer earlier c = .id id ∧
    id ≠ 0 ∧ id ∉ numbers earlier ∧
      registered (earlier ++ [c]) = registered earlier ++ [⟨id, { label }, hasCleanup⟩]
  /-- Removal says whether there is such a watch. -/
  flagged : ∀ id, c = .remove id →
    answer earlier c = .flag (decide (id ∈ (registered earlier).map (·.id)))
  /-- Every watch that is registered hears an event once, in turn.  Cleanups are for the watches
  that are registered no longer. -/
  traced : trace earlier c = calls c (registered earlier) ++
    cleanedUp (cleanups ((registered earlier).filter fun w =>
      w.id ∉ (registered (earlier ++ [c])).map (·.id)))

theorem Lasts.fits {earlier : List Command} (h : Lasts earlier) (c : Command) :
    Fits earlier c where
  numbered := by
    rintro label hasCleanup rfl
    refine ⟨additions earlier + 1, h.answer_add label hasCleanup, by simp, ?_, ?_⟩
    · rw [h.numbers_eq, List.mem_range'_1]
      omega
    · rw [registered_concat, map_told (by simp)]
      simp [ends, added]
  flagged := by
    rintro id rfl
    exact h.answer_remove id
  traced := by
    rw [h.trace_eq, ended_eq]

/-- As long as numbers last, every command to a list has what fits it, and so has the drop of the
list at the end.  Over the whole life of the list, whoever is owed a cleanup has it exactly once. -/
theorem watches_exact (commands : List Command) (single : .renew ∉ commands)
    (few : additions commands < UInt32.size - 1) :
    (∀ earlier c, earlier ++ [c] <+: commands ++ [.renew] → Fits earlier c) ∧
      (cleaned (commands ++ [.renew])).Perm (owed commands) := by
  have lasts : Lasts commands := ⟨single, few⟩
  refine ⟨fun earlier c first => (lasts.of_prefix ?_).fits c, ?_⟩
  · have shorter : earlier.length ≤ commands.length := by
      simpa using first.length_le
    exact List.prefix_of_prefix_length_le ((List.prefix_append _ _).trans first)
      (List.prefix_append _ _) shorter
  · have all : (registered commands).filter (fun w => ends w.id .renew) = registered commands :=
      List.filter_eq_self.2 fun _ _ => rfl
    rw [cleaned_concat, lasts.trace_eq, cleanedBy_calls_append, all]
    exact lasts.cleaned_append_due

/-- A life with all three ways in which a watch can end. -/
theorem watches_exact_mixed :
    (∀ earlier c,
      earlier ++ [c] <+: [.add "a" true, .add "b" false, .notify 1, .remove 1, .remove 1,
        .add "a" true, .notify 2, .clear, .add "c" true, .renew] → Fits earlier c) ∧
      (cleaned [.add "a" true, .add "b" false, .notify 1, .remove 1, .remove 1,
        .add "a" true, .notify 2, .clear, .add "c" true, .renew]).Perm ["a", "a", "c"] :=
  watches_exact [.add "a" true, .add "b" false, .notify 1, .remove 1, .remove 1,
    .add "a" true, .notify 2, .clear, .add "c" true] (by simp) (by decide)

end Simulation.Listener

end WirelessStation
