import Mathlib
import BlitReel.Proofs.Service.StatusPackets
import BlitReel.Proofs.Service.Transition

/-!
# The order in which a client is told of statuses

A client that follows the status is told of every status that is put in place, and of each once
(`told_in_order_iff`). It is told of the beginning of a conversion before that conversion is launched, so
before its end is put in place. But the end of a conversion may be told at any time later, also after the
beginning of the next one. The client is told in order exactly when this does not happen: whenever it is
told that a conversion has begun, nothing else is left to tell it (`Manager.Prompt`). Then the last thing
that it was told is of the status in place whenever nothing is left to tell it.
-/

namespace BlitReel.Manager

open scoped List

variable {m m' : Manager} {c : Nat} {v : Move} {moves : List Move} {new : List Status} {posted : List Packet}

/-- The statuses that moves put in place. -/
def installs : Manager → List Move → List Status
  | _, [] => []
  | m, v :: moves => m.installed v ++ installs (m.step v) moves

theorem installs_snoc (m : Manager) (moves : List Move) (v : Move) :
    m.installs (moves ++ [v]) = m.installs moves ++ (m.steps moves).installed v := by
  induction moves generalizing m with
  | nil => simp [installs, steps]
  | cons w moves ih =>
    rw [List.cons_append, installs, installs, ih, List.append_assoc]
    rfl

/-- The last thing that a client was told is of the status in place, as to kind and slug. -/
def Knows (c : Nat) (m : Manager) : Prop :=
  ∃ s : Status, (m.told c).getLast? = some (.ofStatus s) ∧ s.kind = m.status.kind ∧ s.slug = m.status.slug

/-- A client follows the status and knows it, and nothing is left to tell it. -/
structure Abreast (c : Nat) (m : Manager) : Prop where
  follows : m.Follows c
  clear : m.pending c = []
  knows : m.Knows c

/-- Whenever a client is told that a conversion has begun, nothing else is left to tell it. -/
def Prompt (c : Nat) (m : Manager) (moves : List Move) : Prop :=
  ∀ made v after p, moves = made ++ v :: after → (m.steps (made ++ [v])).told c = (m.steps made).told c ++ [p] →
    p.Opens → (m.steps (made ++ [v])).pending c = []

theorem prompt_snoc : m.Prompt c (moves ++ [v]) ↔ m.Prompt c moves ∧
    ∀ p, (m.steps (moves ++ [v])).told c = (m.steps moves).told c ++ [p] → p.Opens →
      (m.steps (moves ++ [v])).pending c = [] := by
  constructor
  · intro prompt
    refine ⟨?_, fun p => prompt moves v [] p rfl⟩
    rintro made w after p rfl
    exact prompt made w (after ++ [v]) p (by simp)
  · rintro ⟨early, last⟩ made w after p split
    rcases snoc_eq_append_cons.1 split with ⟨-, rfl, rfl⟩ | ⟨front, -, rfl⟩
    · exact last p
    · exact early made w front p rfl

/-- A client that speaks and subscribes to the status while nothing is left to tell it is abreast. -/
theorem abreast_hear (roster : m.Roster) {x : Client} (mem : x ∈ m.clients) (clear : m.pending x.number = [])
    {data : Octets} {message : ControlMessage} (read : ControlMessage.read? data = some message)
    (covers : message.subscription.covers .status = true) : (m.step (.hear x.number data)).Abreast x.number := by
  have there : (m.clients.any (·.number == x.number)) = true := List.any_eq_true.2 ⟨x, mem, by simp⟩
  set f : Client → Client := fun old =>
    if old.number == x.number then { old with id := message.id, subscription := message.subscription } else old
  have number (y : Client) : (f y).number = y.number := by
    simp only [f]
    split <;> rfl
  have spoken : m.step (.hear x.number data) =
      sendTo { m with clients := m.clients.map f } x.number .status (.ofStatus m.status) := by
    simp only [step, there, ↓reduceIte, heard, read, f]
  have follows : Follows x.number { m with clients := m.clients.map f } :=
    ⟨f x, List.mem_map.2 ⟨x, mem, rfl⟩, number x, by simpa [f] using covers⟩
  obtain ⟨sent, same⟩ := sendTo_eq { m with clients := m.clients.map f } x.number .status (.ofStatus m.status)
  rw [spoken]
  refine ⟨?_, ?_, m.status, ?_, by rw [same], by rw [same]⟩
  · rw [same]
    exact follows
  · rw [same]
    exact clear
  · rw [told_sendTo_self (roster.relabel number) follows rfl, List.getLast?_concat]

/-- What is left to tell a client, in the order in which it was put in place: the end of a conversion, the
beginning of the next one, or both. -/
inductive Backlog (kind : Int64) : List Packet → Prop
  | clear : Backlog kind []
  | ended (x : Packet) (idle : kind = Status.idle) (closes : ¬ x.Opens) : Backlog kind [x]
  | begun (y : Packet) (converting : kind = Status.converting) (opens : y.Opens) : Backlog kind [y]
  | both (x y : Packet) (converting : kind = Status.converting) (closes : ¬ x.Opens) (opens : y.Opens) : Backlog kind [x, y]

/-- A client has been told the first of what was posted, and the rest is left to tell it. -/
def InStep (c : Nat) (m : Manager) (posted : List Packet) : Prop :=
  ∃ rest, posted = m.told c ++ rest ∧ m.pending c ~ rest ∧ Backlog m.status.kind rest

theorem ne_converting_of_idle {kind : Int64} (idle : kind = Status.idle) : kind ≠ Status.converting := by
  rw [idle]
  decide

/-- What comes of a packet that is told, when one is left to tell. -/
theorem eq_of_perm_singleton {x p : Packet} {rest : List Packet} (perm : [x] ~ p :: rest) : p = x ∧ rest = [] := by
  obtain ⟨rfl, rfl⟩ := List.cons.inj (List.singleton_perm.1 perm)
  exact ⟨rfl, rfl⟩

theorem InStep.step (h : m.InStep c posted) (change : AnnouncementChange c m m' new)
    (prompt : ∀ p, m'.told c = m.told c ++ [p] → p.Opens → m'.pending c = []) :
    m'.InStep c (posted ++ new.map .ofStatus) := by
  obtain ⟨rest, rfl, left, backlog⟩ := h
  cases change with
  | nothing kind slug told pending =>
    refine ⟨rest, by simp [told], ?_, ?_⟩
    · rwa [pending]
    · rwa [kind]
  | tells p status told pending =>
    have perm := left.symm.trans pending
    rw [List.map_nil, List.append_nil]
    rw [InStep, told, status]
    cases backlog with
    | clear => cases List.nil_perm.1 perm
    | ended x idle closes =>
      obtain ⟨rfl, none⟩ := eq_of_perm_singleton perm
      exact ⟨[], by simp, by rw [none], .clear⟩
    | begun y converting opens =>
      obtain ⟨rfl, none⟩ := eq_of_perm_singleton perm
      exact ⟨[], by simp, by rw [none], .clear⟩
    | both x y converting closes opens =>
      rcases List.mem_pair.1 (perm.mem_iff.2 List.mem_cons_self) with rfl | rfl
      · exact ⟨[y], by simp, (List.Perm.cons_inv perm).symm, .begun y converting opens⟩
      · -- Both are left to tell, so that the conversion has begun cannot be told.
        rw [prompt p told opens] at perm
        cases perm.length_eq
  | enters idle kind told pending =>
    have opens : (Packet.ofStatus m'.status).Opens := ⟨m'.status, kind, rfl⟩
    refine ⟨rest ++ [.ofStatus m'.status], by simp [told], pending.trans (left.append_right _), ?_⟩
    cases backlog with
    | clear => exact .begun _ kind opens
    | ended x _ closes => exact .both x _ kind closes opens
    | begun y converting _ | both _ y converting _ _ => exact absurd converting (ne_converting_of_idle idle)
  | leaves busy kind launched told pending =>
    have closes : ¬ (Packet.ofStatus m'.status).Opens := Packet.not_opens_of_idle kind
    refine ⟨rest ++ [.ofStatus m'.status], by simp [told], pending.trans (left.append_right _), ?_⟩
    cases backlog with
    | clear => exact .ended _ kind closes
    | ended x idle _ => exact absurd busy (ne_converting_of_idle idle)
    | begun y _ opens => exact absurd opens (launched y (left.mem_iff.2 (by simp)))
    | both x y _ _ opens => exact absurd opens (launched y (left.mem_iff.2 (by simp)))

/-- As long as a client is told in order, it is told promptly. -/
theorem InStep.prompt (h : m.InStep c posted) (change : AnnouncementChange c m m' new)
    (front : m'.told c <+: posted ++ new.map .ofStatus) {p : Packet} (telling : m'.told c = m.told c ++ [p])
    (opens : p.Opens) : m'.pending c = [] := by
  obtain ⟨rest, rfl, left, backlog⟩ := h
  have silent (told : m'.told c = m.told c) : False := by
    rw [told] at telling
    simpa using congrArg List.length telling
  cases change with
  | nothing _ _ told _ | enters _ _ told _ | leaves _ _ _ told _ => exact (silent told).elim
  | tells p' status told pending =>
    obtain rfl : p' = p := by simpa [told] using telling
    have perm := left.symm.trans pending
    rw [told, List.map_nil, List.append_nil, List.prefix_append_right_inj] at front
    cases backlog with
    | clear => cases List.nil_perm.1 perm
    | ended x idle closes =>
      obtain ⟨rfl, -⟩ := eq_of_perm_singleton perm
      exact absurd opens closes
    | begun y converting _ => exact (eq_of_perm_singleton perm).2
    | both x y converting closes _ =>
      obtain ⟨rfl, -⟩ := List.cons_prefix_cons.1 front
      exact absurd opens closes

/-- Nothing is told that was not pending, and nothing that is pending is lost. -/
theorem AnnouncementChange.conserves (change : AnnouncementChange c m m' new) :
    m'.told c ++ m'.pending c ~ m.told c ++ m.pending c ++ new.map .ofStatus := by
  cases change with
  | nothing _ _ told pending => simp [told, pending]
  | tells p _ told pending =>
    rw [told, List.map_nil, List.append_nil, List.append_assoc]
    exact pending.symm.append_left _
  | enters _ _ told pending | leaves _ _ _ told pending =>
    rw [told, List.append_assoc]
    exact pending.append_left _

theorem AnnouncementChange.told_grows (change : AnnouncementChange c m m' new) : m.told c <+: m'.told c := by
  cases change with
  | tells p _ told _ => exact ⟨[p], told.symm⟩
  | nothing _ _ told _ | enters _ _ told _ | leaves _ _ _ told _ => rw [told]

section Run

variable (h : m.Serving) (follows : m.Follows c) (loyal : ∀ v ∈ moves, v.isOf c = false)

include h follows loyal

theorem follows_steps : (m.steps moves).Serving ∧ (m.steps moves).Follows c := by
  induction moves using List.reverseRecOn with
  | nil => exact ⟨h, follows⟩
  | append_singleton moves v ih =>
    rw [List.forall_mem_append, List.forall_mem_singleton] at loyal
    obtain ⟨serving, follows⟩ := ih loyal.1
    rw [steps_snoc]
    exact ⟨serving.step v, follows.step loyal.2⟩

/-- What one more move does. -/
theorem announcementChange_snoc (next : v.isOf c = false) :
    AnnouncementChange c (m.steps moves) (m.steps (moves ++ [v])) ((m.steps moves).installed v) := by
  obtain ⟨serving, follows⟩ := follows_steps h follows loyal
  rw [steps_snoc]
  exact serving.announcementChange follows next

/-- The last status posted is the one in place, as to kind and slug. -/
theorem knows_posted (knows : m.Knows c) :
    ∃ s : Status, (m.told c ++ (m.installs moves).map Packet.ofStatus).getLast? = some (.ofStatus s) ∧
      s.kind = (m.steps moves).status.kind ∧ s.slug = (m.steps moves).status.slug := by
  induction moves using List.reverseRecOn with
  | nil =>
    rw [installs, List.map_nil, List.append_nil]
    exact knows
  | append_singleton moves v ih =>
    rw [List.forall_mem_append, List.forall_mem_singleton] at loyal
    obtain ⟨s, last, kind, slug⟩ := ih loyal.1
    have change := announcementChange_snoc h follows loyal.1 loyal.2
    rw [installs_snoc, List.map_append, ← List.append_assoc]
    revert change
    generalize (m.steps moves).installed v = new
    intro change
    cases change with
    | nothing kind' slug' _ _ =>
      rw [List.map_nil, List.append_nil]
      exact ⟨s, last, kind.trans kind'.symm, slug.trans slug'.symm⟩
    | tells p status _ _ =>
      rw [List.map_nil, List.append_nil, status]
      exact ⟨s, last, kind, slug⟩
    | enters | leaves => exact ⟨_, List.getLast?_concat, rfl, rfl⟩

variable (clear : m.pending c = [])

include clear

/-- What has been told and what is left to tell is what was posted. -/
theorem told_steps :
    (m.steps moves).told c ++ (m.steps moves).pending c ~ m.told c ++ (m.installs moves).map .ofStatus := by
  induction moves using List.reverseRecOn with
  | nil =>
    show m.told c ++ m.pending c ~ m.told c ++ []
    rw [clear]
  | append_singleton moves v ih =>
    rw [List.forall_mem_append, List.forall_mem_singleton] at loyal
    have change := announcementChange_snoc h follows loyal.1 loyal.2
    rw [installs_snoc, List.map_append, ← List.append_assoc]
    exact change.conserves.trans ((ih loyal.1).append_right _)

theorem inStep_steps (prompt : m.Prompt c moves) :
    (m.steps moves).InStep c (m.told c ++ (m.installs moves).map .ofStatus) := by
  induction moves using List.reverseRecOn with
  | nil => exact ⟨[], rfl, by rw [show m.steps [] = m from rfl, clear], .clear⟩
  | append_singleton moves v ih =>
    rw [List.forall_mem_append, List.forall_mem_singleton] at loyal
    obtain ⟨before, last⟩ := prompt_snoc.1 prompt
    rw [installs_snoc, List.map_append, ← List.append_assoc]
    exact (ih loyal.1 before).step (announcementChange_snoc h follows loyal.1 loyal.2) last

theorem prompt_of_inOrder (front : (m.steps moves).told c <+: m.told c ++ (m.installs moves).map .ofStatus) :
    m.Prompt c moves := by
  induction moves using List.reverseRecOn with
  | nil =>
    intro made v after p split
    cases (List.append_eq_nil_iff.1 split.symm).2
  | append_singleton moves v ih =>
    rw [List.forall_mem_append, List.forall_mem_singleton] at loyal
    obtain ⟨early, next⟩ := loyal
    have change := announcementChange_snoc h follows early next
    rw [installs_snoc, List.map_append, ← List.append_assoc] at front
    -- What was told before is among what had been posted before, by its length.
    have length := (told_steps h follows early clear).length_eq
    rw [List.length_append] at length
    have before : (m.steps moves).told c <+: m.told c ++ (m.installs moves).map .ofStatus :=
      List.prefix_of_prefix_length_le (change.told_grows.trans front) (List.prefix_append _ _) (by omega)
    have prompt := ih early before
    exact prompt_snoc.2 ⟨prompt, fun p => (inStep_steps h follows early clear prompt).prompt change front⟩

end Run

/-- While a client follows the status, and whatever else happens, it is told of every status that is put in place,
and of each once. It is told of them in the order in which they were put in place exactly when, whenever it is told
that a conversion has begun, nothing else is left to tell it. Then it knows the kind and the slug of the status in
place whenever nothing is left to tell it. -/
theorem told_in_order_iff (base : Settings) (before after : List Move) (c : Nat)
    (abreast : (steps { base } before).Abreast c) (loyal : ∀ v ∈ after, v.isOf c = false) :
    let m := steps { base } before
    let posted := m.told c ++ (m.installs after).map Packet.ofStatus
    (m.steps after).told c ++ (m.steps after).pending c ~ posted ∧
    ((m.steps after).told c <+: posted ↔ m.Prompt c after) ∧
    (m.Prompt c after → (m.steps after).pending c = [] →
      (m.steps after).told c = posted ∧ (m.steps after).Abreast c) := by
  intro m posted
  have serving : m.Serving := serving_steps base before
  obtain ⟨follows, clear, knows⟩ := abreast
  refine ⟨told_steps serving follows loyal clear, ⟨prompt_of_inOrder serving follows loyal clear, ?_⟩, ?_⟩
  · intro prompt
    obtain ⟨rest, split, -⟩ := inStep_steps serving follows loyal clear prompt
    exact ⟨rest, split.symm⟩
  · intro prompt none
    obtain ⟨rest, split, left, -⟩ := inStep_steps serving follows loyal clear prompt
    rw [none] at left
    obtain rfl := List.nil_perm.1 left
    rw [List.append_nil] at split
    obtain ⟨s, last, kind, slug⟩ := knows_posted serving follows loyal knows
    refine ⟨split.symm, (follows_steps serving follows loyal).2, none, s, ?_, kind, slug⟩
    rw [← split]
    exact last

/-- A client joins and subscribes to the status. -/
def attached : List Move := [.connect, .hear 0 (Octets.ofString "\x7b\"subscription\":2\x7d")]

/-- A conversion begins, and the client is told; it ends, and the client is told; the next one begins. -/
def calm : List Move :=
  [.start { input := Octets.ofString "-", slug := Octets.ofString "a" } 0, .advance 0, .advance 0, .advance 0, .advance 0,
    .advance 0, .finish 0 (.error .cancelled), .advance 1, .advance 1, .advance 1, .advance 1, .advance 1, .advance 1,
    .start { input := Octets.ofString "-", slug := Octets.ofString "b" } 0, .advance 2, .advance 2, .advance 2]

/-- The same, but the client is told of the end of the first conversion only after it was told of the beginning of the
next one. -/
def crossed : List Move :=
  [.start { input := Octets.ofString "-", slug := Octets.ofString "a" } 0, .advance 0, .advance 0, .advance 0, .advance 0,
    .advance 0, .finish 0 (.error .cancelled), .advance 1, .advance 1, .advance 1, .advance 1,
    .start { input := Octets.ofString "-", slug := Octets.ofString "b" } 0, .advance 2, .advance 2, .advance 2,
    .advance 1, .advance 1]

theorem abreast_attached : (steps {} attached).Abreast 0 := by
  have read : (ControlMessage.read? (Octets.ofString "\x7b\"subscription\":2\x7d")).map
      (fun message => message.subscription.covers .status) = some true := by decide +kernel
  obtain ⟨message, read, covers⟩ := Option.map_eq_some_iff.1 read
  exact abreast_hear (serving_steps {} [.connect]).roster (x := { number := 0 }) List.mem_cons_self rfl read covers

theorem told_in_order_iff_calm :
    (steps {} (attached ++ calm)).status.slug = Octets.ofString "b" ∧ (steps {} (attached ++ calm)).Abreast 0 := by
  have loyal : ∀ v ∈ calm, v.isOf 0 = false := by decide
  obtain ⟨-, order, known⟩ := told_in_order_iff {} attached calm 0 abreast_attached loyal
  rw [steps_append]
  refine ⟨by decide +kernel, (known (order.1 ?_) ?_).2⟩
  · decide +kernel
  · decide +kernel

/-- Nothing is left to tell the client, but what it was told last is the end of a conversion, while the next one is
under way. -/
theorem told_out_of_order :
    let m := steps {} attached
    m.Abreast 0 ∧ (∀ v ∈ crossed, v.isOf 0 = false) ∧ (m.steps crossed).pending 0 = [] ∧
      ¬ (m.steps crossed).told 0 <+: m.told 0 ++ (m.installs crossed).map .ofStatus ∧ ¬ (m.steps crossed).Knows 0 := by
  intro m
  refine ⟨abreast_attached, by decide, by decide +kernel, by decide +kernel, ?_⟩
  have last : ((m.steps crossed).told 0).getLast? = some (.ofStatus (m.steps (crossed.take 11)).status) := by decide +kernel
  have idle : (m.steps (crossed.take 11)).status.kind = Status.idle := by decide +kernel
  have converting : (m.steps crossed).status.kind = Status.converting := by decide +kernel
  rintro ⟨s, same, kind, -⟩
  rw [last, Option.some.injEq] at same
  exact Packet.not_opens_of_idle idle ⟨s, kind.trans converting, same⟩

end BlitReel.Manager
