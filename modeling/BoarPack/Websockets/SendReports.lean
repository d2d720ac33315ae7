import BoarPack.Websockets.Sending

/-! What the promise of `send` says of the payload. It is wrong where the client opens after the timer, and
where the listener throws. -/
namespace BoarPack.Websockets
open Transition

variable {D P : Type}

/-- `settles`: what was passed to `client.send` settles the promise when it calls back. -/
structure Reported (sending : Sending D P) : Prop where
  settles : sending.fired = true ∨ sending.opened = true → sending.callback = true ∨ sending.promise.isSome = true
  passes : ∀ attempt ∈ sending.attempt, attempt.payload.isSome = true ↔ attempt.rejected = false
  resolves : sending.promise = some .resolved → ∃ attempt ∈ sending.attempt, attempt.payload.isSome = true

def Reports (s : Sender D P) : Prop := ∀ sending ∈ s.sends, Reported sending

variable (stringify : D → Option P)

/-- Up to the first listener that throws, the timer is armed exactly where the data can be serialised. -/
def InTimeFor (client : Nat) : List (Sending D P) → Prop
  | [] => True
  | sending :: rest =>
    if sending.hears client then
      (sending.timer = true ↔ (stringify sending.data).isSome = true) ∧
        ((stringify sending.data).isSome = true → InTimeFor client rest)
    else InTimeFor client rest

/-- A client opens before the timers of its calls of `send`, and what they have to send can be serialised. -/
def InTime (s : Sender D P) : SendEvent D → Prop
  | .clients (.opened k) => InTimeFor stringify k s.sends
  | _ => True

/-- What holds of a call of `send` however it goes. -/
structure Sound (sending : Sending D P) : Prop where
  listening : sending.listening = true →
    sending.attempt = none ∧ sending.callback = false ∧ (sending.timer = false → sending.promise = some .rejected)
  armed : sending.timer = true → sending.promise = none ∧ sending.attempt = none ∧ sending.opened = false
  called : sending.callback = true → ∃ attempt ∈ sending.attempt, attempt.payload.isSome = true
  resolves : sending.promise = some .resolved → ∃ attempt ∈ sending.attempt, attempt.payload.isSome = true

/-- What a settled promise was settled as, it stays. -/
def Later (sending later : Sending D P) : Prop :=
  ∀ settled, sending.promise = some settled → later.promise = some settled

/-- The calls of `send` stay in their order, and their promises as they were settled. -/
def Kept (before after : List (Sending D P)) : Prop :=
  ∀ (k : Nat) (sending : Sending D P), before[k]? = some sending → ∃ later, after[k]? = some later ∧ Later sending later

private theorem kept_same (sends : List (Sending D P)) : Kept sends sends :=
  fun _ sending found => ⟨sending,found,fun _ held => held⟩

private theorem kept_cons {sending later : Sending D P} {before after : List (Sending D P)}
    (first : Later sending later) (rest : Kept before after) : Kept (sending :: before) (later :: after) := by
  intro k other found
  cases k with
  | zero =>
    rw [List.getElem?_cons_zero,Option.some.injEq] at found
    exact ⟨later,rfl,found ▸ first⟩
  | succ k =>
    rw [List.getElem?_cons_succ] at found
    exact rest k other found

private theorem kept_modify (sends : List (Sending D P)) (k : Nat) (f : Sending D P → Sending D P)
    (later : ∀ sending, Later sending (f sending)) : Kept sends (sends.modify k f) := by
  intro j sending found
  rw [Containers.getElem?_modify_if,found]
  split
  · exact ⟨f sending,rfl,later sending⟩
  · exact ⟨sending,rfl,fun _ held => held⟩

theorem Kept.trans {first second third : List (Sending D P)} (earlier : Kept first second) (later : Kept second third) :
    Kept first third := by
  intro k sending found
  obtain ⟨next,here,held⟩ := earlier k sending found
  obtain ⟨last,there,still⟩ := later k next here
  exact ⟨last,there,fun settled settles => still settled (held settled settles)⟩

namespace Sending

private theorem later_settle (sending : Sending D P) (settled : Settled) : Later sending (sending.settle settled) := by
  intro first held
  simp [settle,held]

private theorem later_onOpen (sending : Sending D P) : Later sending (sending.onOpen stringify) := by
  intro settled held
  simp only [onOpen]
  split
  · exact held
  · exact held

private theorem later_removeListener (client : Nat) (sending : Sending D P) :
    Later sending (sending.removeListener client) := by
  intro settled held
  unfold removeListener
  split
  · exact held
  · exact held

private theorem sound_fire {sending : Sending D P} (sound : Sound sending) (armed : sending.timer = true) :
    Sound sending.fire where
  listening heard := by
    obtain ⟨pending,_,_⟩ := sound.armed armed
    obtain ⟨untried,quiet,_⟩ := sound.listening heard
    exact ⟨untried,quiet,fun _ => by simp [fire,settle,pending]⟩
  armed armed := by cases armed
  called := sound.called
  resolves resolved := by
    obtain ⟨pending,_,_⟩ := sound.armed armed
    simp [fire,settle,pending] at resolved

private theorem reported_fire {sending : Sending D P} (sound : Sound sending) (armed : sending.timer = true)
    (reported : Reported sending) :
    Reported sending.fire where
  settles _ := by
    obtain ⟨pending,_,_⟩ := sound.armed armed
    simp [fire,settle,pending]
  passes := reported.passes
  resolves := (sound_fire sound armed).resolves

private theorem sound_called {sending : Sending D P} (sound : Sound sending) (waiting : sending.callback = true)
    (err : Bool) :
    Sound (sending.called err) where
  listening heard := by
    have quiet := (sound.listening heard).2.1
    rw [waiting] at quiet
    cases quiet
  armed armed := by
    obtain ⟨_,untried,_⟩ := sound.armed armed
    obtain ⟨attempt,tried,_⟩ := sound.called waiting
    rw [untried] at tried
    cases tried
  called waiting := by cases waiting
  resolves _ := sound.called waiting

private theorem reported_called {sending : Sending D P} (sound : Sound sending) (waiting : sending.callback = true)
    (err : Bool) (reported : Reported sending) : Reported (sending.called err) where
  settles _ := by
    right
    cases held : sending.promise <;> simp [Sending.called,settle,held]
  passes := reported.passes
  resolves := (sound_called sound waiting err).resolves

private theorem sound_removeListener {sending : Sending D P} (sound : Sound sending) (client : Nat) :
    Sound (sending.removeListener client) := by
  unfold removeListener
  split
  · exact { sound with listening := fun heard => by cases heard }
  · exact sound

private theorem reported_removeListener {sending : Sending D P} (reported : Reported sending) (client : Nat) :
    Reported (sending.removeListener client) := by
  unfold removeListener
  split
  · exact ⟨reported.settles,reported.passes,reported.resolves⟩
  · exact reported

private theorem sound_start (client : Nat) (data : D) (readyState : ReadyState) :
    Sound (start stringify client data readyState) := by
  unfold start
  split
  · exact { listening := by simp, armed := by simp, called := by simp, resolves := by simp }
  · unfold sendNow
    split
    · exact {
        listening := by simp [send]
        armed := by simp [send]
        called := by simp [send]
        resolves := by simp [send] }
    · exact {
        listening := by simp [throws,settle]
        armed := by simp [throws,settle]
        called := by simp [throws,settle]
        resolves := by simp [throws,settle] }

private theorem reported_start (client : Nat) (data : D) (readyState : ReadyState) :
    Reported (start stringify client data readyState) := by
  unfold start
  split
  · exact { settles := by simp, passes := by simp, resolves := by simp }
  · unfold sendNow
    split
    · exact { settles := by simp [send], passes := by simp [send], resolves := by simp [send] }
    · exact {
        settles := by simp [throws,settle]
        passes := by simp [throws,settle]
        resolves := by simp [throws,settle] }

private theorem sound_onOpen {sending : Sending D P} (sound : Sound sending) (heard : sending.listening = true) :
    Sound (sending.onOpen stringify) := by
  obtain ⟨untried,quiet,_⟩ := sound.listening heard
  have unresolved : sending.promise ≠ some .resolved := by
    intro resolved
    obtain ⟨attempt,tried,_⟩ := sound.resolves resolved
    rw [untried] at tried
    cases tried
  simp only [onOpen]
  split
  · exact { listening := by simp [send], armed := by simp [send], called := by simp [send], resolves := by simp [send] }
  · exact {
      listening := by simp [throws]
      armed := by simp [throws]
      called := by simp [throws,quiet]
      resolves := by simp [throws,unresolved] }

/-- The listener reports what happened exactly if it is in time. -/
theorem reported_onOpen {sending : Sending D P} (sound : Sound sending) (heard : sending.listening = true) :
    Reported (sending.onOpen stringify) ↔ (sending.timer = true ↔ (stringify sending.data).isSome = true) := by
  obtain ⟨untried,quiet,late⟩ := sound.listening heard
  have resolves := (sound_onOpen stringify sound heard).resolves
  cases text : stringify sending.data with
  | some payload =>
    have opened : sending.onOpen stringify =
        { sending with listening := false, timer := false, opened := true }.send payload := by
      simp only [onOpen,text]
    rw [opened] at resolves ⊢
    cases armed : sending.timer with
    | true =>
      obtain ⟨pending,_,_⟩ := sound.armed armed
      exact iff_of_true { settles := by simp [send], passes := by simp [send,pending], resolves := resolves } (by simp)
    | false =>
      have rejected := late armed
      refine iff_of_false (fun reported => ?_) (by simp)
      have passes := reported.passes _ rfl
      simp [rejected] at passes
  | none =>
    have opened : sending.onOpen stringify =
        { sending with listening := false, timer := false, opened := true }.throws := by
      simp only [onOpen,text]
    rw [opened] at resolves ⊢
    cases armed : sending.timer with
    | true =>
      obtain ⟨pending,_,_⟩ := sound.armed armed
      refine iff_of_false (fun reported => ?_) (by simp)
      have settles := reported.settles (Or.inr rfl)
      simp [throws,quiet,pending] at settles
    | false =>
      have rejected := late armed
      exact iff_of_true {
        settles := by simp [throws,rejected]
        passes := by simp [throws,rejected]
        resolves := resolves } (by simp)

private theorem listening_of_hears {client : Nat} {sending : Sending D P} (heard : sending.hears client = true) :
    sending.listening = true := by
  unfold hears at heard
  exact (Bool.and_eq_true_iff.mp heard).2

private theorem sound_emitOpen (client : Nat) (sends : List (Sending D P)) (sound : ∀ sending ∈ sends, Sound sending) :
    ∀ sending ∈ emitOpen stringify client sends, Sound sending := by
  induction sends with
  | nil => exact sound
  | cons sending rest ih =>
    have here := sound sending List.mem_cons_self
    have others : ∀ other ∈ rest, Sound other := fun other member => sound other (List.mem_cons_of_mem _ member)
    unfold emitOpen
    split
    next heard =>
      have listening := listening_of_hears heard
      have opened := sound_onOpen stringify here listening
      split
      · exact List.forall_mem_cons.mpr ⟨opened,ih others⟩
      · exact List.forall_mem_cons.mpr ⟨opened,others⟩
    next => exact List.forall_mem_cons.mpr ⟨here,ih others⟩

private theorem reported_emitOpen (client : Nat) (sends : List (Sending D P)) (sound : ∀ sending ∈ sends, Sound sending)
    (reported : ∀ sending ∈ sends, Reported sending) :
    InTimeFor stringify client sends ↔ ∀ sending ∈ emitOpen stringify client sends, Reported sending := by
  induction sends with
  | nil => exact iff_of_true trivial reported
  | cons sending rest ih =>
    obtain ⟨here,others⟩ := List.forall_mem_cons.mp sound
    obtain ⟨now,later⟩ := List.forall_mem_cons.mp reported
    unfold emitOpen InTimeFor
    split
    next heard =>
      have listening := listening_of_hears heard
      rw [← reported_onOpen stringify here listening]
      split
      next serialised =>
        rw [List.forall_mem_cons,← ih others later]
        simp [serialised]
      next thrown =>
        rw [List.forall_mem_cons]
        exact ⟨fun told => ⟨told.1,later⟩,fun told => ⟨told.1,fun serialised => absurd serialised thrown⟩⟩
    next =>
      rw [List.forall_mem_cons,← ih others later]
      exact ⟨fun in_time => ⟨now,in_time⟩,And.right⟩

private theorem kept_emitOpen (client : Nat) (sends : List (Sending D P)) :
    Kept sends (emitOpen stringify client sends) := by
  induction sends with
  | nil => exact kept_same []
  | cons sending rest ih =>
    unfold emitOpen
    split
    · split
      · exact kept_cons (later_onOpen stringify sending) ih
      · exact kept_cons (later_onOpen stringify sending) (kept_same rest)
    · exact kept_cons (fun _ held => held) ih

end Sending

/-- What an event leaves of the calls there are; a call of `send` adds one. -/
inductive Moved (s : Sender D P) : SendEvent D → Sender D P → Prop
  | sent (client : Nat) (data : D) (readyState : ReadyState) :
    Moved s (.send client data) { s with sends := s.sends ++ [Sending.start stringify client data readyState] }
  | opened (k : Nat) (clients : WebsocketsClients) :
    Moved s (.clients (.opened k)) ⟨clients,Sending.emitOpen stringify k s.sends⟩
  | removed (label : Label) (k : Nat) (clients : WebsocketsClients) (other : ∀ j, label ≠ .opened j) :
    Moved s (.clients label) ⟨clients,s.sends.map (Sending.removeListener k)⟩
  | unheard (label : Label) (clients : WebsocketsClients) (other : ∀ j, label ≠ .opened j) :
    Moved s (.clients label) ⟨clients,s.sends⟩
  | fired (k : Nat) (sending : Sending D P) (found : s.sends[k]? = some sending) (armed : sending.timer = true) :
    Moved s (.timer k) { s with sends := s.sends.modify k Sending.fire }
  | called (k : Nat) (err : Bool) (sending : Sending D P) (found : s.sends[k]? = some sending)
    (waiting : sending.callback = true) :
    Moved s (.sent k err) { s with sends := s.sends.modify k (fun sending => sending.called err) }

private theorem sendStep_moved {s t : Sender D P} {event : SendEvent D} (taken : sendStep stringify s event = some t) :
    Moved stringify s event t := by
  cases event with
  | send client data =>
    obtain ⟨socket,_,rfl⟩ := Option.map_eq_some_iff.mp taken
    exact .sent client data socket.readyState
  | clients label =>
    obtain ⟨clients,_,rfl⟩ := Option.map_eq_some_iff.mp taken
    cases label with
    | opened k => exact .opened k clients
    | closed k => exact .removed _ k clients (by simp)
    | call call =>
      cases call with
      | close k =>
        simp only [heard]
        split
        · exact .removed _ k clients (by simp)
        · exact .unheard _ clients (by simp)
      | connect config => exact .unheard _ clients (by simp)
      | reconnect client => exact .unheard _ clients (by simp)
    | returned => exact .unheard _ clients (by simp)
    | threw => exact .unheard _ clients (by simp)
    | openFailed k => exact .unheard _ clients (by simp)
    | error k => exact .unheard _ clients (by simp)
    | message k income => exact .unheard _ clients (by simp)
    | timer id => exact .unheard _ clients (by simp)
  | timer k =>
    simp only [sendStep,Option.ite_none_right_eq_some,Option.some.injEq] at taken
    obtain ⟨⟨_,armed⟩,rfl⟩ := taken
    obtain ⟨sending,found,armed⟩ := (Option.any_eq_true _ _).mp armed
    exact .fired k sending found armed
  | sent k err =>
    simp only [sendStep,Option.ite_none_right_eq_some,Option.some.injEq] at taken
    obtain ⟨⟨_,waiting⟩,rfl⟩ := taken
    obtain ⟨sending,found,waiting⟩ := (Option.any_eq_true _ _).mp waiting
    exact .called k err sending found waiting

def AllSound (s : Sender D P) : Prop := ∀ sending ∈ s.sends, Sound sending

theorem modified (sends : List (Sending D P)) (k : Nat) (f : Sending D P → Sending D P) (p : Sending D P → Prop)
    (all : ∀ sending ∈ sends, p sending) (here : ∀ sending, sends[k]? = some sending → p (f sending)) :
    ∀ sending ∈ sends.modify k f, p sending := by
  intro sending member
  obtain ⟨j,found⟩ := List.mem_iff_getElem?.mp member
  rw [Containers.getElem?_modify_if] at found
  split at found
  next same =>
    obtain ⟨old,was,rfl⟩ := Option.map_eq_some_iff.mp found
    exact here old (same ▸ was)
  next => exact all sending (List.mem_of_getElem? found)

theorem appended (sends : List (Sending D P)) (last : Sending D P) (p : Sending D P → Prop)
    (all : ∀ sending ∈ sends, p sending) (here : p last) : ∀ sending ∈ sends ++ [last], p sending := by
  intro sending member
  rcases List.mem_append.mp member with old | new
  · exact all sending old
  · exact List.mem_singleton.mp new ▸ here

private theorem sound_step (s : Sender D P) (event : SendEvent D) (t : Sender D P) (sound : AllSound s)
    (taken : sendStep stringify s event = some t) : AllSound t := by
  cases sendStep_moved stringify taken with
  | sent client data readyState =>
    exact appended s.sends _ Sound sound (Sending.sound_start stringify client data readyState)
  | opened k clients => exact Sending.sound_emitOpen stringify k s.sends sound
  | removed label k clients =>
    exact List.forall_mem_map.mpr (fun sending member => Sending.sound_removeListener (sound sending member) k)
  | unheard label clients => exact sound
  | fired k sending found armed =>
    apply modified s.sends k _ Sound sound
    intro other same
    obtain rfl := Option.some.inj (found.symm.trans same)
    exact Sending.sound_fire (sound _ (List.mem_of_getElem? found)) armed
  | called k err sending found waiting =>
    apply modified s.sends k _ Sound sound
    intro other same
    obtain rfl := Option.some.inj (found.symm.trans same)
    exact Sending.sound_called (sound _ (List.mem_of_getElem? found)) waiting err

private theorem reports_step (s : Sender D P) (event : SendEvent D) (t : Sender D P) (sound : AllSound s)
    (reports : Reports s) (taken : sendStep stringify s event = some t) : InTime stringify s event ↔ Reports t := by
  cases sendStep_moved stringify taken with
  | sent client data readyState =>
    exact iff_of_true trivial (appended s.sends _ Reported reports
      (Sending.reported_start stringify client data readyState))
  | opened k clients => exact Sending.reported_emitOpen stringify k s.sends sound reports
  | removed label k clients other =>
    have kept : Reports ⟨clients,s.sends.map (Sending.removeListener k)⟩ :=
      List.forall_mem_map.mpr (fun sending member => Sending.reported_removeListener (reports sending member) k)
    cases label with
    | opened j => exact absurd rfl (other j)
    | _ => exact iff_of_true trivial kept
  | unheard label clients other =>
    cases label with
    | opened j => exact absurd rfl (other j)
    | _ => exact iff_of_true trivial reports
  | fired k sending found armed =>
    refine iff_of_true trivial (modified s.sends k _ Reported reports (fun other same => ?_))
    obtain rfl := Option.some.inj (found.symm.trans same)
    have member := List.mem_of_getElem? found
    exact Sending.reported_fire (sound _ member) armed (reports _ member)
  | called k err sending found waiting =>
    refine iff_of_true trivial (modified s.sends k _ Reported reports (fun other same => ?_))
    obtain rfl := Option.some.inj (found.symm.trans same)
    have member := List.mem_of_getElem? found
    exact Sending.reported_called (sound _ member) waiting err (reports _ member)

theorem kept_step (s : Sender D P) (event : SendEvent D) (t : Sender D P)
    (taken : sendStep stringify s event = some t) :
    Kept s.sends t.sends := by
  cases sendStep_moved stringify taken with
  | sent client data readyState =>
    intro k sending found
    have inside : k < s.sends.length := (List.getElem?_eq_some_iff.mp found).1
    exact ⟨sending,by simpa [List.getElem?_append_left inside] using found,fun _ held => held⟩
  | opened k clients => exact Sending.kept_emitOpen stringify k s.sends
  | removed label k clients =>
    intro j sending found
    exact ⟨sending.removeListener k,by simp [found],Sending.later_removeListener k sending⟩
  | unheard label clients => exact kept_same s.sends
  | fired k sending =>
    exact kept_modify s.sends k _ (fun other => Sending.later_settle { other with timer := false, fired := true } _)
  | called k err sending =>
    exact kept_modify s.sends k _ (fun other => Sending.later_settle { other with callback := false } _)

private theorem settled_once (s t : Sender D P) (events : List (SendEvent D))
    (ran : run (sendStep stringify) s events = some t) :
    Kept s.sends t.sends :=
  run_invariant (fun u => Kept s.sends u.sends)
    (fun u event v kept taken => kept.trans (kept_step stringify u event v taken)) s t events (kept_same s.sends) ran

def sendTooEarly : List (SendEvent String) :=
  [.clients (.call (.connect 0)),.send 0 "early",.timer 0,.clients (.opened 0)]

end BoarPack.Websockets
