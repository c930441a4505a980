import Mathlib
import BlitReel.Proofs.Json.RoundTrip
import BlitReel.Proofs.Service.Exclusion

/-!
# What clients are told about the status

A status is put in place by one act and told to the clients by later ones. `Manager.pending` lists what
errands have still to tell a client about the status, and `Manager.told` what the client has been told.
`Manager.AnnouncementChange` lists what a move can do to these, and `Serving.announcementChange` says that
every move does one of these things, for a client that is there and has subscribed: what is told had been
pending, and what becomes pending is the status that the move puts in place.

While a conversion is being concluded, nothing that is pending says that a conversion has begun: a
conversion is launched only after every client has been told of it (`Act.Tidy`).
-/

namespace BlitReel

theorem Status.text_toList (s : Status) : ∃ more, s.text.toList =
    '\x7b' :: Json.writeText "state" ++ ':' :: ((toString s.kind.toInt).toList ++ more) := by
  obtain ⟨others, members⟩ : ∃ others, s.toJson = .object (("state", Json.ofInt s.kind.toInt) :: others) := ⟨_, rfl⟩
  rw [text, members, Json.compact, String.toList_ofList, Json.compactChars, Json.compactMembers, Json.joinWith_cons,
    Json.ofInt, Json.compactChars]
  exact ⟨_, by simp only [List.cons_append, List.append_assoc]; rfl⟩

/-- A packet tells that a conversion has begun. -/
def Packet.Opens (p : Packet) : Prop := ∃ s : Status, s.kind = Status.converting ∧ p = .ofStatus s

/-- The texts of an idle and of a converting service differ in the digit after the name of the first member. -/
theorem Packet.not_opens_of_idle {s : Status} (idle : s.kind = Status.idle) : ¬ (Packet.ofStatus s).Opens := by
  rintro ⟨s', converting, same⟩
  simp only [ofStatus, Packet.mk.injEq, true_and] at same
  obtain ⟨more, old⟩ := s.text_toList
  obtain ⟨more', new⟩ := s'.text_toList
  rw [same, new, idle, converting] at old
  have digits := List.cons.inj (List.append_cancel_left old)
  have one : (toString Status.idle.toInt).toList = ['1'] := by decide +kernel
  have two : (toString Status.converting.toInt).toList = ['2'] := by decide +kernel
  rw [one, two] at digits
  simp at digits

namespace Act

/-- What an act tells, and to whom. -/
def parcel? : Act → Option (Subscription × Packet)
  | .broadcast want p | .send _ want p => some (want, p)
  | _ => none

/-- Whether an act puts a status in place, in a service whose status is of this kind. -/
def installs (kind : Int64) : Act → Bool
  | .begin .. => kind == Status.idle
  | .conclude .. => kind == Status.converting
  | _ => false

/-- What an act is to tell a client about the status. -/
def statusPackets (c : Nat) : Act → List Packet
  | .broadcast _ p => if p.kind = .status then [p] else []
  | .send client _ p => if client = c ∧ p.kind = .status then [p] else []
  | _ => []

/-- The status is told to those who have subscribed to it, and that a conversion has begun is told before the
conversion is launched. -/
def Tidy : List Act → Prop
  | [] => True
  | a :: rest =>
    (∀ want p, a.parcel? = some (want, p) → p.kind = .status → want = .status ∧ (p.Opens → ∃ k, .launch k ∈ rest)) ∧
      Tidy rest

/-- Acts that tell nothing about the status. -/
def Silent (acts : List Act) : Prop := ∀ a ∈ acts, ∀ want p, a.parcel? = some (want, p) → p.kind ≠ .status

theorem tidy_of_silent {acts : List Act} (silent : Silent acts) : Tidy acts := by
  induction acts with
  | nil => trivial
  | cons a acts ih =>
    refine ⟨fun want p parcel status => ?_, ih fun b mem => silent b (List.mem_cons_of_mem a mem)⟩
    exact absurd status (silent a List.mem_cons_self want p parcel)

theorem Tidy.spread {want : Subscription} {p : Packet} {rest : List Act} (h : Tidy (.broadcast want p :: rest))
    (clients : List Client) : Tidy ((clients.map fun x => .send x.number want p) ++ rest) := by
  induction clients with
  | nil => exact h.2
  | cons x clients ih =>
    refine ⟨?_, ih⟩
    rintro want' p' ⟨⟩ status
    obtain ⟨wanted, ahead⟩ := h.1 want p rfl status
    refine ⟨wanted, fun opens => ?_⟩
    obtain ⟨k, mem⟩ := ahead opens
    exact ⟨k, List.mem_append_right _ mem⟩

theorem parcel?_of_mem_statusPackets {a : Act} {c : Nat} {p : Packet} (mem : p ∈ a.statusPackets c) :
    ∃ want, a.parcel? = some (want, p) ∧ p.kind = .status := by
  unfold statusPackets at mem
  split at mem
  · split at mem
    · rename_i want q status
      obtain rfl := List.mem_singleton.1 mem
      exact ⟨want, rfl, status⟩
    · cases mem
  · split at mem
    · rename_i want q both
      obtain rfl := List.mem_singleton.1 mem
      exact ⟨want, rfl, both.2⟩
    · cases mem
  · cases mem

/-- That a conversion has begun is told only while a launch is ahead. -/
theorem Tidy.launch_mem {acts : List Act} (h : Tidy acts) {c : Nat} {p : Packet}
    (mem : p ∈ acts.flatMap (statusPackets c)) (opens : p.Opens) : ∃ k, .launch k ∈ acts := by
  induction acts with
  | nil => cases mem
  | cons a acts ih =>
    rw [List.flatMap_cons, List.mem_append] at mem
    rcases mem with mem | mem
    · obtain ⟨want, parcel, status⟩ := parcel?_of_mem_statusPackets mem
      obtain ⟨k, launch⟩ := (h.1 want p parcel status).2 opens
      exact ⟨k, List.mem_cons_of_mem a launch⟩
    · obtain ⟨k, launch⟩ := ih h.2 mem
      exact ⟨k, List.mem_cons_of_mem a launch⟩

end Act

/-- What an errand is to tell a client about the status. -/
def Errand.statusPackets (c : Nat) (t : Errand) : List Packet := t.todo.flatMap (Act.statusPackets c)

namespace Manager

variable {m m' : Manager} {c e : Nat} {a : Act} {rest : List Act} {reply? : Option (Except Failure Status)}

theorem silent_closing (k : Nat) (j : Job) (r : Except Failure Manifest) : Act.Silent (closing k j r) := by
  intro a mem want p parcel
  rcases List.mem_append.1 mem with mem | mem
  · cases r with
    | error f =>
      simp only [report, List.mem_cons, List.not_mem_nil, or_false] at mem
      rcases mem with rfl | rfl
      · cases parcel
      · cases parcel
        simp [Packet.ofFailure]
    | ok man =>
      simp only [report] at mem
      split at mem
      · rename_i p' done
        rw [List.mem_singleton.1 mem] at parcel
        cases parcel
        unfold Packet.ofManifest at done
        cases document : man.toJson with
        | error f =>
          rw [document] at done
          cases done
        | ok doc =>
          rw [document] at done
          cases done
          simp
      · rw [List.mem_singleton.1 mem] at parcel
        cases parcel
  · rw [List.mem_singleton.1 mem] at parcel
    cases parcel

/-- The clients have numbers of their own. -/
structure Roster (m : Manager) : Prop where
  distinct : (m.clients.map (·.number)).Nodup
  counted : ∀ x ∈ m.clients, x.number < m.joined

/-- What holds of the service so that a client is told what it ought to be told. -/
structure Serving (m : Manager) : Prop where
  sound : m.Sound
  tidy : ∀ t ∈ m.errands, Act.Tidy t.todo
  roster : m.Roster

theorem Serving.tidy_perform (h : m.Serving) (there : m.errands[e]? = some ⟨a :: rest, reply?⟩) :
    ∀ t ∈ (m.perform e rest a).errands, Act.Tidy t.todo := by
  have old := h.tidy _ (List.mem_of_getElem? there)
  have changed {m' : Manager} (f : Errand → Errand) (errands : m'.errands = m.errands.modify e f)
      (new : Act.Tidy (f ⟨a :: rest, reply?⟩).todo) : ∀ t ∈ m'.errands, Act.Tidy t.todo := by
    rw [errands]
    exact forall_updateErrand there f h.tidy new
  cases a with
  | begin settings input now =>
    simp only [perform, beginJob]
    split
    · refine changed _ rfl ⟨?_, by simp [Act.parcel?], by simp [Act.parcel?], by simp [Act.parcel?], old.2⟩
      rintro want p ⟨⟩ -
      exact ⟨rfl, fun _ => ⟨m.jobs.length, by simp⟩⟩
    · exact changed _ rfl trivial
  | conclude k status =>
    obtain ⟨i, j, busy, mem⟩ := h.sound.exclusive.converting_of_mem (mem_milestones there List.mem_cons_self rfl)
    obtain ⟨rfl, r, -, rfl, -⟩ := Job.conclude_mem_due mem
    simp only [perform, concludeJob, busy.kind, beq_self_eq_true, ↓reduceIte]
    refine changed _ rfl ⟨?_, old.2⟩
    rintro want p ⟨⟩ -
    have idle : (j.lastStatus r).kind = Status.idle := by cases r <;> rfl
    exact ⟨rfl, fun opens => absurd opens (Packet.not_opens_of_idle idle)⟩
  | broadcast want p => exact changed _ rfl (old.spread m.clients)
  | send client want p =>
    obtain ⟨sent, same⟩ := m.sendTo_eq client want p
    rw [perform, same]
    exact changed _ rfl old.2
  | observe =>
    simp only [perform, observeJob]
    split
    · exact changed _ rfl ⟨by simp [Act.parcel?], by simp [Act.parcel?], old.2⟩
    · exact changed _ rfl trivial
  | await =>
    simp only [perform]
    split
    · exact changed _ rfl trivial
    · exact h.tidy
  | answer => exact changed _ rfl trivial
  | note n => exact changed _ rfl old.2
  | launch k => exact changed _ rfl old.2
  | signal k => exact changed _ rfl old.2

theorem Serving.tidy_step (h : m.Serving) (v : Move) : ∀ t ∈ (m.step v).errands, Act.Tidy t.todo := by
  have added {m' : Manager} {new : Errand} (errands : m'.errands = m.errands ++ [new])
      (silent : Act.Silent new.todo) : ∀ t ∈ m'.errands, Act.Tidy t.todo := by
    intro t mem
    rw [errands] at mem
    rcases List.mem_append.1 mem with mem | mem
    · exact h.tidy t mem
    · rw [List.mem_singleton.1 mem]
      exact Act.tidy_of_silent silent
  by_cases client : v.isOfClient = true
  · obtain ⟨clients, joined, sent, notes, same, -⟩ := m.step_ofClient client
    rw [same]
    exact h.tidy
  cases v with
  | start request now =>
    simp only [step]
    split <;> exact added rfl (by simp [Act.Silent, Act.parcel?])
  | cancel => exact added rfl (by simp [Act.Silent, Act.parcel?])
  | advance e =>
    simp only [step]
    split
    · rename_i there
      exact h.tidy_perform there
    · exact h.tidy
  | giveUp e =>
    simp only [step]
    split
    · rename_i there
      exact forall_updateErrand there _ h.tidy trivial
    · exact h.tidy
  | progress k p =>
    simp only [step]
    split
    · exact added rfl (by simp [Act.Silent, Act.parcel?, Packet.ofProgress])
    · exact h.tidy
  | finish k r =>
    simp only [step]
    split
    · split
      · exact added rfl (silent_closing k _ r)
      · exact h.tidy
    · exact h.tidy
  | connect | hear _ _ | disconnect _ _ => exact absurd rfl client

/-- What a client says changes its own entry at most. -/
theorem heard_clients (m : Manager) (client : Nat) (data : Octets) : ∃ f : Client → Client,
    (∀ x, (f x).number = x.number) ∧ (∀ x, x.number ≠ client → f x = x) ∧
      (m.heard client data).clients = m.clients.map f ∧ (m.heard client data).joined = m.joined := by
  unfold heard
  split
  · exact ⟨id, fun _ => rfl, fun _ _ => rfl, (List.map_id _).symm, rfl⟩
  · rename_i message _
    obtain ⟨sent, same⟩ := sendTo_eq { m with clients := m.clients.map fun old =>
      if old.number == client then { old with id := message.id, subscription := message.subscription } else old }
      client .status (.ofStatus m.status)
    refine ⟨_, ?_, ?_, by rw [same], by rw [same]⟩
    · intro x
      split <;> rfl
    · intro x ne
      simp [ne]

theorem Roster.relabel (h : m.Roster) {f : Client → Client} (number : ∀ x, (f x).number = x.number) :
    Roster { m with clients := m.clients.map f } := by
  refine ⟨?_, ?_⟩
  · rw [List.map_map, show (fun x : Client => x.number) ∘ f = (·.number) from funext number]
    exact h.distinct
  · intro x mem
    obtain ⟨y, inside, rfl⟩ := List.mem_map.1 mem
    rw [number]
    exact h.counted y inside

theorem Roster.step (h : m.Roster) (v : Move) : (m.step v).Roster := by
  by_cases own : v.isOfClient = false
  · obtain ⟨status, jobs, errands, sent, journal, same⟩ := m.step_eq own
    rw [same]
    exact ⟨h.distinct, h.counted⟩
  cases v with
  | connect =>
    have new : m.joined ∉ m.clients.map (·.number) := by
      intro mem
      obtain ⟨x, mem, same⟩ := List.mem_map.1 mem
      exact absurd (h.counted x mem) (by omega)
    refine ⟨?_, ?_⟩
    · simp only [Manager.step, List.map_append, List.map_cons, List.map_nil]
      rw [← List.concat_eq_append]
      exact (List.nodup_concat _ _).2 ⟨new, h.distinct⟩
    · intro x mem
      rcases List.mem_append.1 mem with mem | mem
      · exact (h.counted x mem).trans (Nat.lt_succ_self _)
      · rw [List.mem_singleton.1 mem]
        exact Nat.lt_succ_self _
  | hear client data =>
    simp only [Manager.step]
    split
    · obtain ⟨f, number, -, clients, joined⟩ := m.heard_clients client data
      have kept := h.relabel number
      exact ⟨by rw [clients]; exact kept.distinct, by rw [clients, joined]; exact kept.counted⟩
    · exact h
  | disconnect client words =>
    simp only [Manager.step]
    split
    · refine ⟨h.distinct.sublist (List.filter_sublist.map _), ?_⟩
      intro x mem
      exact h.counted x (List.mem_filter.1 mem).1
    · exact h
  | start _ _ | cancel | advance _ | giveUp _ | progress _ _ | finish _ _ => exact absurd rfl own

theorem Serving.step (h : m.Serving) (v : Move) : (m.step v).Serving :=
  ⟨h.sound.step v, h.tidy_step v, h.roster.step v⟩

theorem serving_steps (base : Settings) (moves : List Move) : (steps { base } moves).Serving := by
  induction moves using List.reverseRecOn with
  | nil => exact ⟨sound_steps base [], by simp [steps], by simp [steps], by simp [steps]⟩
  | append_singleton moves v ih =>
    rw [steps_append]
    exact ih.step v

/-- What errands have still to tell a client about the status. -/
def pending (c : Nat) (m : Manager) : List Packet := m.errands.flatMap (Errand.statusPackets c)

/-- What a client has been told about the status. -/
def told (c : Nat) (m : Manager) : List Packet :=
  (m.sent.filter fun x => x.1 = c ∧ x.2.kind = .status).map (·.2)

/-- A client is there and has subscribed to the status. -/
def Follows (c : Nat) (m : Manager) : Prop := ∃ x ∈ m.clients, x.number = c ∧ x.subscription.covers .status = true

/-- Whether a client itself makes this move. -/
def Move.isOf (c : Nat) : Move → Bool
  | .hear client _ | .disconnect client _ => client == c
  | _ => false

/-- A client goes on following while it neither speaks nor leaves. -/
theorem Follows.step (h : m.Follows c) {v : Move} (loyal : v.isOf c = false) : (m.step v).Follows c := by
  obtain ⟨x, mem, number, covers⟩ := h
  by_cases own : v.isOfClient = false
  · obtain ⟨status, jobs, errands, sent, journal, same⟩ := m.step_eq own
    rw [same]
    exact ⟨x, mem, number, covers⟩
  cases v with
  | connect => exact ⟨x, List.mem_append_left _ mem, number, covers⟩
  | hear client data =>
    have other : x.number ≠ client := by
      rintro rfl
      simp [Move.isOf, number] at loyal
    simp only [Manager.step]
    split
    · obtain ⟨f, -, fixed, clients, -⟩ := m.heard_clients client data
      refine ⟨x, ?_, number, covers⟩
      rw [clients]
      exact List.mem_map.2 ⟨x, mem, fixed x other⟩
    · exact ⟨x, mem, number, covers⟩
  | disconnect client words =>
    have other : x.number ≠ client := by
      rintro rfl
      simp [Move.isOf, number] at loyal
    simp only [Manager.step]
    split
    · exact ⟨x, List.mem_filter.2 ⟨mem, by simpa using other⟩, number, covers⟩
    · exact ⟨x, mem, number, covers⟩
  | start _ _ | cancel | advance _ | giveUp _ | progress _ _ | finish _ _ => exact absurd rfl own

section Sending

variable {client : Nat} {want : Subscription} {p : Packet}

theorem told_append (c : Nat) (sent : List (Nat × Packet)) :
    told c { m with sent := sent ++ [(client, p)] } =
      told c { m with sent } ++ if client = c ∧ p.kind = .status then [p] else [] := by
  simp only [told, List.filter_append, List.map_append]
  split <;> simp_all

/-- What goes to others, or is not about the status, tells a client nothing about the status. -/
theorem told_sendTo_other (other : ¬ (client = c ∧ p.kind = .status)) : (m.sendTo client want p).told c = m.told c := by
  unfold sendTo
  split
  · split
    · rw [told_append, if_neg other, List.append_nil]
    · rfl
  · rfl

/-- The one entry of a client that is there. -/
theorem Roster.filter_clients (h : m.Roster) {x : Client} (mem : x ∈ m.clients) :
    m.clients.filter (·.number == x.number) = [x] := by
  have distinct := h.distinct
  revert mem distinct
  generalize m.clients = clients
  intro mem distinct
  induction clients with
  | nil => cases mem
  | cons y clients ih =>
    obtain ⟨new, distinct⟩ := List.nodup_cons.1 distinct
    rcases List.mem_cons.1 mem with rfl | mem
    · rw [List.filter_cons_of_pos (by simp), List.filter_eq_nil_iff.2]
      intro z inside same
      exact new (List.mem_map.2 ⟨z, inside, beq_iff_eq.1 same⟩)
    · have ne : y.number ≠ x.number := by
        intro same
        exact new (List.mem_map.2 ⟨x, mem, same.symm⟩)
      rw [List.filter_cons_of_neg (by simpa using ne)]
      exact ih mem distinct

theorem told_sendTo_self (roster : m.Roster) (follows : m.Follows c) (status : p.kind = .status) :
    (m.sendTo c .status p).told c = m.told c ++ [p] := by
  obtain ⟨x, mem, rfl, covers⟩ := follows
  have found : m.clients.find? (·.number == x.number) = some x := by
    rw [← List.head?_filter, roster.filter_clients mem]
    rfl
  simp only [sendTo, found, covers, ↓reduceIte]
  rw [told_append, if_pos ⟨rfl, status⟩]

theorem flatMap_statusPackets_send (clients : List Client) (status : p.kind = .status) :
    (clients.map fun x => Act.send x.number want p).flatMap (Act.statusPackets c) =
      (clients.filter (·.number == c)).map fun _ => p := by
  induction clients with
  | nil => rfl
  | cons x clients ih =>
    rw [List.map_cons, List.flatMap_cons, ih, Act.statusPackets]
    by_cases same : x.number = c
    · rw [if_pos ⟨same, status⟩, List.filter_cons_of_pos (by simpa using same)]
      rfl
    · rw [if_neg (fun both => same both.1), List.filter_cons_of_neg (by simpa using same)]
      rfl

/-- A packet for all is for a client that is there once. -/
theorem statusPackets_spread (roster : m.Roster) (follows : m.Follows c) :
    (m.clients.map fun x => Act.send x.number want p).flatMap (Act.statusPackets c) =
      (Act.broadcast want p).statusPackets c := by
  by_cases status : p.kind = .status
  · obtain ⟨x, mem, rfl, -⟩ := follows
    rw [flatMap_statusPackets_send m.clients status, roster.filter_clients mem, Act.statusPackets, if_pos status]
    rfl
  · rw [Act.statusPackets, if_neg status, List.flatMap_eq_nil_iff]
    intro a mem
    obtain ⟨x, -, rfl⟩ := List.mem_map.1 mem
    rw [Act.statusPackets, if_neg fun both => status both.2]

end Sending

/-- The status that a move puts in place, if it does. -/
def installed (m : Manager) : Move → List Status
  | .advance e =>
    match m.errands[e]?.bind (·.todo.head?) with
    | some a => if a.installs m.status.kind then [(m.step (.advance e)).status] else []
    | none => []
  | _ => []

/-- What a move does to what a client is told about the status, with the statuses that it puts in place. -/
inductive AnnouncementChange (c : Nat) (m m' : Manager) : List Status → Prop
  | nothing (kind : m'.status.kind = m.status.kind) (slug : m'.status.slug = m.status.slug)
      (told : m'.told c = m.told c) (pending : m'.pending c = m.pending c) : AnnouncementChange c m m' []
  | tells (p : Packet) (status : m'.status = m.status) (told : m'.told c = m.told c ++ [p])
      (pending : (m.pending c).Perm (p :: m'.pending c)) : AnnouncementChange c m m' []
  | enters (idle : m.status.kind = Status.idle) (kind : m'.status.kind = Status.converting)
      (told : m'.told c = m.told c) (pending : (m'.pending c).Perm (m.pending c ++ [.ofStatus m'.status])) :
      AnnouncementChange c m m' [m'.status]
  | leaves (busy : m.status.kind = Status.converting) (kind : m'.status.kind = Status.idle)
      (launched : ∀ p ∈ m.pending c, ¬ p.Opens) (told : m'.told c = m.told c)
      (pending : (m'.pending c).Perm (m.pending c ++ [.ofStatus m'.status])) : AnnouncementChange c m m' [m'.status]

/-- That a conversion has begun is told only while its launch is a milestone ahead. -/
theorem Serving.launch_mem (h : m.Serving) {p : Packet} (mem : p ∈ m.pending c) (opens : p.Opens) :
    ∃ k, .launch k ∈ m.milestones := by
  obtain ⟨t, inside, mem⟩ := List.mem_flatMap.1 mem
  obtain ⟨e, there⟩ := List.mem_iff_getElem?.1 inside
  obtain ⟨k, launch⟩ := (h.tidy t inside).launch_mem mem opens
  exact ⟨k, mem_milestones there launch rfl⟩

section Pending

open scoped List

variable {t : Errand} (there : m.errands[e]? = some t) {f : Errand → Errand}

include there

theorem pending_updateErrand_same (same : (f t).statusPackets c = t.statusPackets c) :
    (m.updateErrand e f).pending c = m.pending c := by
  obtain ⟨before, after, old, new⟩ := flatMap_updateErrand there f (Errand.statusPackets c)
  rw [pending, new, same, ← old, pending]

theorem pending_updateErrand_more {p : Packet} (more : (f t).statusPackets c = p :: t.statusPackets c) :
    (m.updateErrand e f).pending c ~ m.pending c ++ [p] := by
  obtain ⟨before, after, old, new⟩ := flatMap_updateErrand there f (Errand.statusPackets c)
  rw [pending, new, more, pending, old]
  calc before ++ p :: t.statusPackets c ++ after
    _ = before ++ p :: (t.statusPackets c ++ after) := by simp
    _ ~ p :: (before ++ (t.statusPackets c ++ after)) := List.perm_middle
    _ ~ before ++ (t.statusPackets c ++ after) ++ [p] := (List.perm_append_singleton _ _).symm
    _ = before ++ t.statusPackets c ++ after ++ [p] := by simp

theorem pending_updateErrand_less {p : Packet} (less : t.statusPackets c = p :: (f t).statusPackets c) :
    m.pending c ~ p :: (m.updateErrand e f).pending c := by
  obtain ⟨before, after, old, new⟩ := flatMap_updateErrand there f (Errand.statusPackets c)
  rw [pending, old, less, pending, new]
  calc before ++ p :: (f t).statusPackets c ++ after
    _ = before ++ p :: ((f t).statusPackets c ++ after) := by simp
    _ ~ p :: (before ++ ((f t).statusPackets c ++ after)) := List.perm_middle
    _ = p :: (before ++ (f t).statusPackets c ++ after) := by simp

end Pending

theorem Serving.announcementChange_perform (h : m.Serving) (follows : m.Follows c)
    (there : m.errands[e]? = some ⟨a :: rest, reply?⟩) :
    AnnouncementChange c m (m.perform e rest a)
      (if a.installs m.status.kind then [(m.perform e rest a).status] else []) := by
  have orderly := h.sound.orderly.errands _ (List.mem_of_getElem? there)
  -- An act that answers is the last one.
  have ended (answers : a.mayAnswer = true) (r : Except Failure Status) :
      AnnouncementChange c m (m.replyTo e r) [] := by
    refine .nothing rfl rfl rfl (pending_updateErrand_same there ?_)
    obtain rfl := orderly.rest_eq_nil answers
    cases a <;> first | rfl | cases answers
  have onward (todo : List Act)
      (same : todo.flatMap (Act.statusPackets c) = (a :: rest).flatMap (Act.statusPackets c)) :
      (m.continueWith e todo).pending c = m.pending c := pending_updateErrand_same there same
  cases a with
  | begin settings input now =>
    simp only [perform, beginJob, Act.installs]
    split
    · rename_i idle
      obtain rfl := orderly.rest_eq_nil rfl
      refine .enters (beq_iff_eq.1 idle) rfl rfl ?_
      exact pending_updateErrand_more there rfl
    · exact ended rfl _
  | conclude k status =>
    obtain ⟨i, j, busy, mem⟩ := h.sound.exclusive.converting_of_mem (mem_milestones there List.mem_cons_self rfl)
    obtain ⟨rfl, r, -, rfl, due⟩ := Job.conclude_mem_due mem
    simp only [perform, concludeJob, busy.kind, beq_self_eq_true, ↓reduceIte, Act.installs]
    refine .leaves busy.kind ?_ ?_ rfl (pending_updateErrand_more there rfl)
    · cases r <;> rfl
    · intro p mem opens
      obtain ⟨k, launch⟩ := h.launch_mem mem opens
      rw [busy.milestones, due] at launch
      simp at launch
  | broadcast want p =>
    refine .nothing rfl rfl rfl (onward _ ?_)
    rw [List.flatMap_append, statusPackets_spread h.roster follows, List.flatMap_cons]
  | send client want p =>
    obtain ⟨sent, same⟩ := m.sendTo_eq client want p
    by_cases own : client = c ∧ p.kind = .status
    · obtain ⟨rfl, status⟩ := own
      obtain ⟨rfl, -⟩ := (h.tidy _ (List.mem_of_getElem? there)).1 want p rfl status
      refine .tells p (by rw [perform, same]; rfl) ?_ ?_
      · exact told_sendTo_self h.roster follows status
      · rw [perform, same]
        refine pending_updateErrand_less there ?_
        rw [Errand.statusPackets, List.flatMap_cons, Act.statusPackets, if_pos ⟨rfl, status⟩]
        rfl
    · have kept : (m.perform e rest (.send client want p)).told c = m.told c := told_sendTo_other own
      refine .nothing (by rw [perform, same]; rfl) (by rw [perform, same]; rfl) kept ?_
      rw [perform, same]
      refine onward rest ?_
      rw [List.flatMap_cons, Act.statusPackets, if_neg own]
      rfl
  | note n => exact .nothing rfl rfl rfl (onward rest rfl)
  | launch k => exact .nothing rfl rfl rfl (onward rest rfl)
  | signal k => exact .nothing rfl rfl rfl (onward rest rfl)
  | answer => exact ended rfl _
  | observe =>
    simp only [perform, observeJob, Act.installs]
    split
    · exact .nothing rfl rfl rfl (onward _ rfl)
    · exact ended rfl _
  | await =>
    simp only [perform, Act.installs]
    split
    · exact ended rfl _
    · exact .nothing rfl rfl rfl rfl

theorem statusPackets_of_silent {t : Errand} (silent : Act.Silent t.todo) : t.statusPackets c = [] := by
  apply List.eq_nil_iff_forall_not_mem.2
  intro p mem
  obtain ⟨a, inside, mem⟩ := List.mem_flatMap.1 mem
  obtain ⟨want, parcel, status⟩ := Act.parcel?_of_mem_statusPackets mem
  exact silent a inside want p parcel status

/-- Every move does one of the things listed, for a client that follows and does not move itself. -/
theorem Serving.announcementChange (h : m.Serving) (follows : m.Follows c) {v : Move} (loyal : v.isOf c = false) :
    AnnouncementChange c m (m.step v) (m.installed v) := by
  have added {m' : Manager} {new : Errand} (kind : m'.status.kind = m.status.kind)
      (slug : m'.status.slug = m.status.slug) (sent : m'.sent = m.sent) (errands : m'.errands = m.errands ++ [new])
      (silent : Act.Silent new.todo) : AnnouncementChange c m m' [] := by
    refine .nothing kind slug (by rw [told, sent, told]) ?_
    rw [pending, errands, List.flatMap_append, List.flatMap_singleton, statusPackets_of_silent silent, List.append_nil,
      pending]
  have same : AnnouncementChange c m m [] := .nothing rfl rfl rfl rfl
  cases v with
  | start request now =>
    simp only [Manager.step]
    split <;> exact added rfl rfl rfl rfl (by simp [Act.Silent, Act.parcel?])
  | cancel => exact added rfl rfl rfl rfl (by simp [Act.Silent, Act.parcel?])
  | advance e =>
    simp only [installed]
    cases there : m.errands[e]? with
    | none =>
      simp only [Manager.step, there]
      exact same
    | some t =>
      obtain ⟨_ | ⟨a, rest⟩, reply?⟩ := t
      · simp only [Manager.step, there]
        exact same
      · simp only [Manager.step, there]
        exact h.announcementChange_perform follows there
  | giveUp e =>
    simp only [Manager.step]
    split
    · rename_i there
      refine .nothing rfl rfl rfl (pending_updateErrand_same there ?_)
      obtain rfl := (h.sound.orderly.errands _ (List.mem_of_getElem? there)).rest_eq_nil rfl
      rfl
    · exact same
  | progress k p =>
    simp only [Manager.step]
    split
    · exact added rfl rfl rfl rfl (by simp [Act.Silent, Act.parcel?, Packet.ofProgress])
    · exact same
  | finish k r =>
    simp only [Manager.step]
    split
    · split
      · exact added rfl rfl rfl rfl (silent_closing k _ r)
      · exact same
    · exact same
  | connect => exact .nothing rfl rfl rfl rfl
  | hear client data =>
    have other : client ≠ c := by simpa [Move.isOf] using loyal
    simp only [Manager.step]
    split
    · unfold heard
      split
      · exact .nothing rfl rfl rfl rfl
      · rename_i message _
        obtain ⟨sent, eq⟩ := sendTo_eq { m with clients := m.clients.map fun old =>
          if old.number == client then { old with id := message.id, subscription := message.subscription } else old }
          client .status (.ofStatus m.status)
        refine .nothing (by rw [eq]) (by rw [eq]) ?_ (by rw [eq]; rfl)
        exact told_sendTo_other fun both => other both.1
    · exact same
  | disconnect client words =>
    simp only [Manager.step]
    split
    · exact .nothing rfl rfl rfl rfl
    · exact same

end Manager

end BlitReel
