import BoarPack.Auth.Browser

/-! What the browser is left with. Its invariant is kept by every operation of its requests and by every answer, so that
between two requests its cookies are those of one session, and a refresh token that it holds has not been used. -/
namespace BoarPack.Auth
open RevokedTokens Users JwtAuth Tokens Containers Transition

namespace Browser

variable {config : Config} {auth : AuthConfig} {b : Browser}

/-- A request of the browser goes on, and no tokens are made. -/
theorem kept_thread (kept : Kept config auth b) {t : State} {extra : List Answer} (inv : Inv config t)
    (minted : t.minted = b.server.minted) (cleared : ∀ answer ∈ extra, answer = .cleared)
    (threads : ∀ (i : Nat) (r : Request), t.requests[i]? = some r → ∃ old : Request, b.server.requests[i]? = some old ∧
      old.token = r.token)
    (length : t.requests.length = b.server.requests.length)
    (safe : ∀ m ∈ b.own, b.Safe m → (b.moved t b.waiting extra []).Safe m)
    (unspent : ∀ m ∈ b.own, (∀ r ∈ b.server.requests, r.token.sid ≠ m.sid) → Unspent b.server m → Unspent t m) :
    Kept config auth (b.moved t b.waiting extra []) := by
  refine kept.moved t b.waiting extra [] inv ?_ ?_ ?_ ?_ safe unspent ?_ ?_ ?_
  · rw [minted,List.append_nil]
    exact kept.own
  · rw [minted,List.append_nil]
    exact kept.closed
  · intro i r found
    obtain ⟨old,at_i,named⟩ := threads i r found
    rw [List.append_nil,← named]
    exact kept.requests i old at_i
  · intro i waits
    rw [length]
    exact kept.waiting i waits
  · intro m _ r inside same
    obtain ⟨i,found⟩ := List.getElem?_of_mem inside
    obtain ⟨old,at_i,named⟩ := threads i r found
    exact Or.inl ⟨old,List.mem_of_getElem? at_i,named ▸ same⟩
  · intro made pair member
    exact Answer.noConfusion (cleared _ member)
  · rw [List.pairwise_append]
    refine ⟨kept.apart,?_,?_⟩
    · refine List.Pairwise.imp_of_mem (R := fun _ _ => True) ?_ (List.pairwise_of_forall (fun _ _ => trivial))
      intro first second member _ _
      rw [cleared first member]
      trivial
    · intro answer _ new member
      rw [cleared new member]
      cases answer <;> trivial

section Proceed

variable {i : Nat} {r : Request} {phase : Phase}

private theorem set_apart {j : Nat} {other : Request} (apart : j ≠ i)
    (at_j : b.server.requests[j]? = some other) :
    (b.server.requests.set i { r with phase := phase })[j]? = some other := by
  rw [List.getElem?_set_ne (Ne.symm apart)]
  exact at_j

private theorem set_here (found : b.server.requests[i]? = some r) :
    (b.server.requests.set i { r with phase := phase })[i]? = some { r with phase := phase } :=
  List.getElem?_set_self (List.getElem?_eq_some_iff.mp found).1

/-- The request looks something up: nothing is made, and it goes on to log in, or the user of its token is gone. -/
theorem kept_looked (kept : Kept config auth b) (waits : i ∈ b.waiting) (found : b.server.requests[i]? = some r)
    (inv : Inv config { b.server with requests := b.server.requests.set i { r with phase := phase } })
    (later : Later b.server { b.server with requests := b.server.requests.set i { r with phase := phase } })
    (no_login : ∀ user, r.phase ≠ .refreshLogin user)
    (finds : r.phase = .refreshFind → (∃ user, phase = .refreshLogin user) ∨ ¬ UserExists b.server r.token) :
    Kept config auth (b.moved { b.server with requests := b.server.requests.set i { r with phase := phase } } b.waiting
      (answerTo config b.server r).toList (makes config b.server r)) := by
  have nothing : makes config b.server r = [] := by
    unfold makes
    split
    next user same => exact absurd same (no_login user)
    next => rfl
  have cleared : ∀ answer ∈ (answerTo config b.server r).toList, answer = .cleared := by
    intro answer given
    unfold answerTo at given
    split at given
    next user same => exact absurd same (no_login user)
    next =>
      split at given
      next => simpa using given
      next => simp at given
    next => simpa using given
    next => simp at given
  rw [nothing]
  refine kept_thread kept inv rfl cleared (set_threads phase found) List.length_set ?_ (fun _ _ _ => id)
  intro m ours
  refine Safe.kept kept.inv later (kept.own m ours) id (fun _ ended _ => ended) ?_
  rintro ⟨j,waiting,other,at_j,rfl,stage⟩
  by_cases same : j = i
  · subst same
    cases Option.some.inj (found.symm.trans at_j)
    have at_phase : r.phase = .refreshFind := stage.resolve_right (fun ⟨user,logs_in⟩ => no_login user logs_in)
    rcases finds at_phase with ⟨user,rfl⟩ | gone
    · exact Or.inr (Or.inl ⟨j,waits,_,set_here found,rfl,Or.inr ⟨user,rfl⟩⟩)
    · exact Or.inr (Or.inr (Or.inr (gone_later kept.inv later (kept.own _ ours) gone)))
  · exact Or.inr (Or.inl ⟨j,waiting,other,set_apart same at_j,rfl,stage⟩)

/-- The request uses up its refresh token, and goes on. -/
theorem kept_used (kept : Kept config auth b) (waits : i ∈ b.waiting) (found : b.server.requests[i]? = some r)
    (revoked : List RevokedTokens.RevokedToken) {used : State}
    (same_state : used = { b.server with
      revokedTokens := revoked
      refreshUses := r.token :: b.server.refreshUses
      requests := b.server.requests.set i { r with phase := .refreshFind } })
    (inv : Inv config used) (later : Later b.server used) : Kept config auth (b.moved used b.waiting [] []) := by
  subst same_state
  refine kept_thread kept inv rfl (by simp) (set_threads .refreshFind found) List.length_set ?_ ?_
  · intro m ours safe
    by_cases same : m = r.token
    · exact Or.inr (Or.inl ⟨i,waits,_,set_here found,same.symm,Or.inl rfl⟩)
    · refine Safe.kept kept.inv later (kept.own m ours) ?_ (fun _ ended _ => ended) ?_ safe
      · exact fun used => (List.mem_cons.mp used).resolve_left same
      · rintro ⟨j,waiting,other,at_j,rfl,stage⟩
        have apart : j ≠ i := by
          rintro rfl
          exact same (congrArg Request.token (Option.some.inj (at_j.symm.trans found)))
        exact Or.inr (Or.inl ⟨j,waiting,other,set_apart apart at_j,rfl,stage⟩)
  · intro m _ unsent unspent
    refine ⟨fun used => ?_,unspent.2⟩
    rcases List.mem_cons.mp used with rfl | earlier
    · exact unsent r (List.mem_of_getElem? found) rfl
    · exact unspent.1 earlier

/-- The request ends its session, and the browser is to clear its cookies. -/
theorem kept_ended (kept : Kept config auth b) (found : b.server.requests[i]? = some r)
    (revoked : List RevokedTokens.RevokedToken) {ended : State}
    (same_state : ended = { b.server with
      revokedTokens := revoked
      logouts := r.token :: b.server.logouts
      requests := b.server.requests.set i { r with phase := phase } })
    (inv : Inv config ended) : Kept config auth (b.moved ended b.waiting [.cleared] []) := by
  subst same_state
  refine kept_thread kept inv rfl (by simp) (set_threads phase found) List.length_set (fun m _ _ => Safe.answered m) ?_
  intro m _ unsent unspent
  refine ⟨unspent.1,fun a given => ?_⟩
  rcases List.mem_cons.mp given with rfl | earlier
  · exact unsent r (List.mem_of_getElem? found)
  · exact unspent.2 a earlier

private theorem kept_proceed (kept : Kept config auth b) {platform : Platform} {next : State} (waits : i ∈ b.waiting)
    (taken : Auth.step platform config b.server (.proceed i) = some next) :
      Kept config auth (b.collect config (.proceed i) next) := by
  have inv := inv_step platform config b.server _ next kept.inv taken
  have later := (step_history taken).1
  obtain ⟨r,after,phase,found,advanced,rfl⟩ := step_proceed taken
  have got : b.collect config (.proceed i) { after with
    requests := b.server.requests.set i { r with phase := phase } } =
      b.moved { after with requests := b.server.requests.set i { r with phase := phase } } b.waiting
        (answerTo config b.server r).toList
        (makes config b.server r) := by
    simp only [collect,if_pos waits,found]
    rfl
  rw [got]
  rcases advance_cases advanced with ⟨rfl,no_login,_,finds⟩ | ⟨jti,revoked,at_phase,rfl,rfl⟩ | ⟨user,at_phase,rfl⟩ |
    ⟨tokens,revoked,at_phase,rfl⟩
  · exact kept_looked kept waits found inv later no_login finds
  · have quiet : answerTo config b.server r = none ∧ makes config b.server r = [] := by simp [answerTo,makes,at_phase]
    rw [quiet.1,quiet.2]
    exact kept_used kept waits found revoked rfl inv later
  · have pair : (answerTo config b.server r).toList =
      [.tokens b.server.now (login config b.server.now b.server.fresh user)] ∧
        makes config b.server r = pairOf config b.server user (some r.token.sid) r.token.family := by
      simp [answerTo,makes,at_phase,pairOf]
    rw [pair.1,pair.2]
    exact kept_minted kept inv ⟨rfl,rfl,rfl,set_threads phase found,List.length_set⟩
  · have ended : (answerTo config b.server r).toList = [.cleared] ∧ makes config b.server r = [] := by
      simp [answerTo,makes,at_phase]
    rw [ended.1,ended.2]
    exact kept_ended kept found revoked rfl inv

end Proceed

/-- The browser sends a token that it has. -/
theorem kept_opened (kept : Kept config auth b) {next : State} {presented : Nat} {phase : Phase} (inv : Inv config next)
    (later : Later b.server next) (opened : b.server.present presented phase = some next) {token : Minted}
    (found : b.server.minted[presented]? = some token) {entry : (String × String) × StoredCookie}
    (inside : entry ∈ b.jar)
    (shown : token.payload = entry.2.value) :
      Kept config auth (b.moved next (b.waiting ++ [b.server.requests.length]) [] []) := by
  obtain ⟨same_token,also,rfl⟩ := present_indexed opened
  cases Option.some.inj (found.symm.trans also)
  obtain ⟨m,ours,session⟩ := jar_own kept inside
  have named : token.sid = m.sid := by
    rw [← shown] at session
    exact Option.some.inj (token.signed.2.1.symm.trans session)
  have own : token ∈ b.own := kept.closed m ours token (List.mem_of_getElem? found) named
  refine kept.moved _ _ [] [] inv (by simpa using kept.own) (by simpa using kept.closed) ?_ ?_ ?_
    (fun _ _ _ => id) ?_ (by simp) (by simpa using kept.apart)
  · intro i r at_i
    rw [List.append_nil,List.mem_append,List.mem_singleton]
    rw [List.getElem?_append] at at_i
    split at at_i
    next before =>
      rw [or_iff_left (Nat.ne_of_lt before)]
      exact kept.requests i r at_i
    next past =>
      rw [List.mem_singleton.mp (List.mem_of_getElem? at_i)]
      have bound := (List.getElem?_eq_some_iff.mp at_i).1
      simp only [List.length_singleton] at bound
      exact iff_of_true own (Or.inr (by omega))
  · intro i member
    rw [List.length_append,List.length_singleton]
    rcases List.mem_append.mp member with waits | new
    · exact Nat.lt_succ_of_lt (kept.waiting i waits)
    · rw [List.mem_singleton.mp new]
      exact Nat.lt_succ_self _
  · intro m ours
    refine Safe.kept kept.inv later (kept.own m ours) id (fun _ ended _ => ended) ?_
    rintro ⟨i,waits,r,at_i,rfl,stage⟩
    refine Or.inr (Or.inl ⟨i,List.mem_append_left _ waits,r,?_,rfl,stage⟩)
    exact (List.getElem?_append_left (kept.waiting i waits)).trans at_i
  · intro m _ r member same
    rcases List.mem_append.mp member with old | new
    · exact Or.inl ⟨r,old,same⟩
    · rw [List.mem_singleton.mp new] at same
      refine Or.inr ⟨entry,inside,?_⟩
      rw [← shown,← same]
      exact token.signed.2.1

private theorem kept_send (kept : Kept config auth b) {platform : Platform} {name url : String} {action : Nat → Action}
    {phase : Phase} {next : Browser}
    (opens : ∀ s presented, Auth.step platform config s (action presented) = s.present presented phase)
    (sent : b.send platform config name url action = some next) : Kept config auth next := by
  simp only [send,Option.bind_eq_bind,Option.bind_eq_some_iff,Option.pure_def,Option.some.injEq] at sent
  obtain ⟨value,held,presented,located,server,taken,rfl⟩ := sent
  have inv := inv_step platform config b.server _ server kept.inv taken
  have later := (step_history taken).1
  obtain ⟨bound,matched,_⟩ := List.findIdx?_eq_some_iff_getElem.mp located
  obtain ⟨entry,listed,rfl⟩ := Option.map_eq_some_iff.mp held
  obtain ⟨stored,inside,rfl⟩ := List.mem_map.mp (List.mem_of_find?_eq_some listed)
  have shown : (b.server.minted[presented]).payload = stored.2.value := by simpa using matched
  rw [opens] at taken
  have moves := kept_opened kept inv later taken (List.getElem?_eq_getElem bound) (List.mem_of_mem_filter inside) shown
  simpa [Browser.moved] using moves

theorem Apart.symm {first second : Answer} (apart : Apart first second) : Apart second first := by
  cases first <;> cases second <;> first | trivial | exact Ne.symm apart

private theorem kept_receive (kept : Kept config auth b) {answer : Nat} {received : Answer}
    (found : b.answers[answer]? = some received) :
    Kept config auth { b with
      jar := b.jar.receiveAll b.server.now (received.cookies auth)
      answers := b.answers.eraseIdx answer } := by
  obtain ⟨last,holds,held⟩ := kept.jar
  have left := holds.receive auth b.server.now received
  have others : ∀ other ∈ b.answers.eraseIdx answer, other ∈ b.answers ∧ Apart received other := by
    intro other member
    obtain ⟨bound,rfl⟩ := List.getElem?_eq_some_iff.mp found
    obtain ⟨j,apart,at_j⟩ := List.mem_eraseIdx_iff_getElem?.mp member
    obtain ⟨inside,rfl⟩ := List.getElem?_eq_some_iff.mp at_j
    refine ⟨List.getElem_mem inside,?_⟩
    rcases Nat.lt_or_gt_of_ne apart with before | after
    · exact Apart.symm (List.pairwise_iff_getElem.mp kept.apart _ _ inside bound before)
    · exact List.pairwise_iff_getElem.mp kept.apart _ _ bound inside after
  refine ⟨kept.inv,kept.own,kept.closed,kept.requests,kept.waiting,⟨_,left,?_⟩,?_,
    List.Pairwise.sublist (List.eraseIdx_sublist _ _) kept.apart⟩
  · intro stored same
    cases received with
    | cleared => cases same
    | tokens made pair =>
      obtain ⟨a,m,arriving⟩ := kept.arriving made pair (List.mem_of_getElem? found)
      cases same
      exact ⟨a,m,{ arriving.pair with },Or.inr (Or.inr (Or.inl arriving.unspent))⟩
  · intro made pair member
    obtain ⟨waiting,apart⟩ := others _ member
    obtain ⟨a,m,arriving⟩ := kept.arriving made pair waiting
    refine ⟨a,m,{ arriving.pair with },arriving.unspent,arriving.unsent,?_⟩
    intro entry inside same
    obtain ⟨stored,came,one⟩ := holds_entry left inside
    cases received with
    | cleared => cases came
    | tokens arrived other =>
      obtain ⟨a₀,m₀,came_with⟩ := kept.arriving arrived other (List.mem_of_getElem? found)
      cases came
      have session : entry.2.value.sid = some m₀.sid :=
        came_with.pair.sid (one.imp (congrArg StoredCookie.value) (congrArg StoredCookie.value))
      apply apart
      rw [← came_with.pair.refresh.1,← arriving.pair.refresh.1,m₀.signed.2.1,m.signed.2.1,← session,same]

private theorem collect_elsewhere {action : Action} {next : State} (others : ∀ i, action = .proceed i → i ∉ b.waiting) :
    b.collect config action next = b.moved next b.waiting [] [] := by
  unfold collect Browser.moved
  split
  next i =>
    rw [if_neg (others i rfl)]
    simp
  next => simp

theorem kept_step (kept : Kept config auth b) {platform : Platform} {urls : Urls} {move : Move} {next : Browser}
    (taken : b.step platform config auth urls move = some next) : Kept config auth next := by
  cases move with
  | server action =>
    simp only [step] at taken
    split at taken
    next foreign =>
      obtain ⟨server,stepped,rfl⟩ := Option.map_eq_some_iff.mp taken
      by_cases mine : ∃ i ∈ b.waiting, action = .proceed i
      · obtain ⟨i,waits,rfl⟩ := mine
        exact kept_proceed kept waits stepped
      · have others : ∀ i, action = .proceed i → i ∉ b.waiting := fun i same waits => mine ⟨i,waits,same⟩
        have strange : ∀ m ∈ presents b.server action, m ∉ b.own := by
          intro m shown
          rw [Option.mem_def.mp shown] at foreign
          simpa using foreign
        rw [collect_elsewhere others]
        exact kept_elsewhere kept (inv_step platform config b.server action server kept.inv stepped)
          (step_history stepped).1
          (elsewhere_step kept stepped strange others)
    next => cases taken
  | login userId =>
    simp only [step,Option.bind_eq_bind,Option.bind_eq_some_iff,Option.pure_def,Option.some.injEq] at taken
    obtain ⟨user,located,server,stepped,rfl⟩ := taken
    have inv := inv_step platform config b.server _ server kept.inv stepped
    obtain ⟨again,same,rfl⟩ := Option.map_eq_some_iff.mp stepped
    cases Option.some.inj (located.symm.trans same)
    exact kept_minted kept inv ⟨rfl,rfl,rfl,fun _ r at_i => ⟨r,at_i,rfl⟩,rfl⟩
  | refresh => exact kept_send kept (fun _ _ => rfl) taken
  | logout => exact kept_send kept (fun _ _ => rfl) taken
  | receive answer =>
    obtain ⟨received,found,rfl⟩ := Option.map_eq_some_iff.mp taken
    exact kept_receive kept found

theorem kept_run {platform : Platform} {urls : Urls} (now : Nat) (users : Users.Table) (moves : List Move)
    (ran : run (step platform config auth urls) (Browser.initial now users) moves = some b) : Kept config auth b :=
  run_invariant (Kept config auth) (fun _ _ _ kept taken => kept_step kept taken) _ b moves
    (kept_initial config auth now users) ran

/-- No answer is on its way, and no request of the browser is still to get one. -/
def Settled (config : Config) (b : Browser) : Prop :=
  b.answers = [] ∧ ∀ i ∈ b.waiting, ∀ r ∈ b.server.requests[i]?, b.server.advance config r = none

theorem Safe.settled {m : Minted} (safe : b.Safe m) (settled : b.Settled config) :
    Unspent b.server m ∨ ¬ UserExists b.server m := by
  rcases safe with arriving | ⟨i,waits,r,found,_,stage⟩ | unspent | gone
  · exact absurd settled.1 arriving
  · have ended := settled.2 i waits r found
    rcases stage with at_phase | ⟨user,at_phase⟩
    · simp only [State.advance,at_phase] at ended
      split at ended <;> cases ended
    · simp [State.advance,at_phase] at ended
  · exact Or.inl unspent
  · exact Or.inr gone

private theorem server_step {platform : Platform} {urls : Urls} {move : Move} {next : Browser}
    (taken : b.step platform config auth urls move = some next) :
    next.server = b.server ∨ ∃ action, Auth.step platform config b.server action = some next.server := by
  have sends {name url : String} {action : Nat → Action} (sent : b.send platform config name url action = some next) :
      ∃ action, Auth.step platform config b.server action = some next.server := by
    simp only [send,Option.bind_eq_bind,Option.bind_eq_some_iff,Option.pure_def,Option.some.injEq] at sent
    obtain ⟨_,_,presented,_,server,stepped,rfl⟩ := sent
    exact ⟨action presented,stepped⟩
  cases move with
  | server action =>
    simp only [step] at taken
    split at taken
    next =>
      obtain ⟨server,stepped,rfl⟩ := Option.map_eq_some_iff.mp taken
      refine Or.inr ⟨action,?_⟩
      rw [stepped]
      unfold collect
      split
      next => split <;> rfl
      next => rfl
    next => cases taken
  | login userId =>
    simp only [step,Option.bind_eq_bind,Option.bind_eq_some_iff,Option.pure_def,Option.some.injEq] at taken
    obtain ⟨_,_,server,stepped,rfl⟩ := taken
    exact Or.inr ⟨.login userId,stepped⟩
  | refresh => exact Or.inr (sends taken)
  | logout => exact Or.inr (sends taken)
  | receive answer =>
    obtain ⟨received,_,rfl⟩ := Option.map_eq_some_iff.mp taken
    exact Or.inl rfl

private theorem uses_step {platform : Platform} {s next : State} {action : Action} (inv : Inv config s)
    (kinds : ∀ u ∈ s.refreshUses, u.kind = .refresh) (taken : Auth.step platform config s action = some next) :
    ∀ u ∈ next.refreshUses, u.kind = .refresh := by
  rcases step_threads taken with ⟨_,uses⟩ | ⟨token,phase,_,rfl⟩ | ⟨i,r,after,phase,_,found,advanced,rfl⟩
  · rw [uses]
    exact kinds
  · exact kinds
  · have ready := inv.ready r (List.mem_of_getElem? found)
    rcases advance_cases advanced with ⟨rfl,_⟩ | ⟨jti,_,at_phase,_,rfl⟩ | ⟨_,_,rfl⟩ | ⟨_,_,_,rfl⟩
    · exact kinds
    · simp only [Ready,at_phase] at ready
      intro u used
      rcases List.mem_cons.mp used with rfl | earlier
      · exact ready.1
      · exact kinds u earlier
    · exact kinds
    · exact kinds

private theorem uses_run {platform : Platform} {urls : Urls} (now : Nat) (users : Users.Table) (moves : List Move)
    (ran : run (step platform config auth urls) (Browser.initial now users) moves = some b) :
    ∀ u ∈ b.server.refreshUses, u.kind = .refresh := by
  refine (run_invariant (fun b => Kept config auth b ∧ ∀ u ∈ b.server.refreshUses, u.kind = .refresh) ?_ _ b moves
    ⟨kept_initial config auth now users,by simp [Browser.initial,State.initial]⟩ ran).2
  rintro b move next ⟨kept,kinds⟩ taken
  refine ⟨kept_step kept taken,?_⟩
  rcases server_step taken with same | ⟨action,stepped⟩
  · rw [same]
    exact kinds
  · exact uses_step kept.inv kinds stepped

theorem accepted_iff {s : State} (inv : Inv config s) {m : Minted} (member : m ∈ s.minted) (kind : TokenType)
    (own : m.kind = kind)
    {accepted : Bool} (decides : accepted = true ↔ ∃ other ∈ s.minted, other.payload = m.payload ∧ other.kind = kind ∧
      Alive s other) :
    accepted = true ↔ Alive s m := by
  rw [decides]
  constructor
  · rintro ⟨other,known,same,_,alive⟩
    have names : other.jti = m.jti := by
      have texts := congrArg Payload.jti same
      rw [other.signed.1,m.signed.1] at texts
      exact Option.some.inj texts
    rw [← inv.distinct other known m member names]
    exact alive
  · exact fun alive => ⟨m,member,rfl,own,alive⟩

end Browser

open Browser

section Runs

variable (platform : Platform) (config : Config) (auth : AuthConfig) (urls : Urls) (now : Nat) (users : Users.Table)
  (moves : List Move)
  (b : Browser) (ran : run (Browser.step platform config auth urls) (Browser.initial now users) moves = some b)

include ran in
/-- However the requests of the browser overlap, with one another and with those of others: its two cookies are
written and cleared together, though each expires at a time of its own, and they are the two tokens of one session. -/
theorem cookies_of_one_session : (get b.jar accessKey).isSome = (get b.jar (refreshKey auth)).isSome ∧
    ∀ access refresh, get b.jar accessKey = some access → get b.jar (refreshKey auth) = some refresh →
      ∃ a ∈ b.server.minted, ∃ m ∈ b.server.minted, a.payload = access.value ∧ m.payload = refresh.value ∧
        a.kind = .access ∧ m.kind = .refresh ∧ a.sid = m.sid ∧ a.payload.sub = m.payload.sub := by
  have kept := kept_run now users moves ran
  obtain ⟨last,holds,held⟩ := kept.jar
  rw [holds.access,holds.refresh]
  refine ⟨by simp,fun access refresh first second => ?_⟩
  obtain ⟨stored,rfl,rfl⟩ := Option.map_eq_some_iff.mp first
  obtain rfl : stored.2 = refresh := Option.some.inj second
  obtain ⟨a,m,pair,_⟩ := held stored rfl
  exact ⟨a,kept.own a pair.known.1,m,kept.own m pair.known.2,pair.access.1,pair.refresh.1,pair.access.2,pair.refresh.2,
    pair.session,pair.subject⟩

include ran in
/-- Once every request of the browser has got its answer, whatever the order, the cookies that it is left with are
accepted until they expire or the user is deleted: it never keeps a refresh token that it has itself used up. -/
theorem settled_accepted (settled : b.Settled config) (access refresh : StoredCookie)
    (first : get b.jar accessKey = some access)
    (second : get b.jar (refreshKey auth) = some refresh) : ∃ a ∈ b.server.minted, ∃ m ∈ b.server.minted,
    a.payload = access.value ∧ m.payload = refresh.value ∧
      (b.server.acceptsAccess access.value = true ↔ ¬ Expired b.server a ∧ UserExists b.server a) ∧
      (b.server.acceptsRefresh config refresh.value = true ↔ ¬ Expired b.server m ∧ UserExists b.server m) := by
  have kept := kept_run now users moves ran
  have kinds := uses_run now users moves ran
  obtain ⟨last,holds,held⟩ := kept.jar
  rw [holds.access] at first
  rw [holds.refresh] at second
  obtain ⟨stored,rfl,rfl⟩ := Option.map_eq_some_iff.mp first
  obtain rfl : stored.2 = refresh := Option.some.inj second
  obtain ⟨a,m,pair,safe⟩ := held stored rfl
  have minted_a := kept.own a pair.known.1
  have minted_m := kept.own m pair.known.2
  refine ⟨a,minted_a,m,minted_m,pair.access.1,pair.refresh.1,?_⟩
  rw [← pair.access.1,← pair.refresh.1,
    accepted_iff kept.inv minted_a .access pair.access.2 (acceptsAccess_iff kept.inv a.payload),
    accepted_iff kept.inv minted_m .refresh pair.refresh.2 (acceptsRefresh_iff kept.inv m.payload)]
  have users : UserExists b.server a ↔ UserExists b.server m := by unfold UserExists; rw [pair.subject]
  have living : UserExists b.server m → Unspent b.server m :=
    fun exist => (safe.settled settled).resolve_right (not_not_intro exist)
  have open_ {other : Minted} (session : other.sid = m.sid) (unspent : Unspent b.server m) :
      ¬ LoggedOutBefore b.server other := by
    rintro ⟨ended,recorded,same⟩
    exact unspent.2 ended recorded (same.trans session)
  have unrevoked {other : Minted} (member : other ∈ b.server.minted) (session : other.sid = m.sid)
    (unspent : Unspent b.server m)
      (unused : other ∉ b.server.refreshUses) : ¬ RevokedBefore b.server other := by
    rintro ⟨u,recorded,same⟩
    have equal := kept.inv.distinct u (recorded_minted kept.inv u recorded) other member same
    subst equal
    exact recorded.elim unused (fun ended => unspent.2 u ended session)
  constructor
  · refine ⟨fun alive => ⟨alive.1,alive.2.2.2⟩,fun ⟨dated,exists_⟩ => ?_⟩
    have unspent := living (users.mp exists_)
    have unused : a ∉ b.server.refreshUses := by
      intro used
      have kind := (kinds a used).symm.trans pair.access.2
      cases kind
    exact ⟨dated,unrevoked minted_a pair.session unspent unused,open_ pair.session unspent,exists_⟩
  · refine ⟨fun alive => ⟨alive.1,alive.2.2.2⟩,fun ⟨dated,exists_⟩ => ?_⟩
    have unspent := living exists_
    exact ⟨dated,unrevoked minted_m rfl unspent unspent.1,open_ rfl unspent,exists_⟩

end Runs

/-- Two tabs refresh at the same time: one of them is refused. -/
def twoTabs : List Move :=
  [.login firstUser.id,.receive 0,.refresh,.refresh,.server (.proceed 0),.server (.proceed 0),.server (.proceed 1),
    .server (.proceed 0),.server (.proceed 0),.receive 0]

theorem two_tabs_one_session :
    ∃ b, run (Browser.step plainPlatform ⟨900000,604800000⟩ {} ⟨"/api/auth/refresh","/api/auth/logout"⟩)
      (Browser.initial 0 firstUsers) twoTabs = some b ∧
    (get b.jar accessKey).isSome = (get b.jar (refreshKey {})).isSome ∧
    ∀ access refresh, get b.jar accessKey = some access → get b.jar (refreshKey {}) = some refresh →
      ∃ a ∈ b.server.minted, ∃ m ∈ b.server.minted, a.payload = access.value ∧ m.payload = refresh.value ∧
        a.kind = .access ∧ m.kind = .refresh ∧ a.sid = m.sid ∧ a.payload.sub = m.payload.sub :=
  ⟨_,rfl,cookies_of_one_session plainPlatform ⟨900000,604800000⟩ {} ⟨"/api/auth/refresh","/api/auth/logout"⟩ 0
    firstUsers twoTabs _ rfl⟩

theorem two_tabs_settled : ∃ (b : Browser) (access refresh : StoredCookie),
    run (Browser.step plainPlatform ⟨900000,604800000⟩ {} ⟨"/api/auth/refresh","/api/auth/logout"⟩)
      (Browser.initial 0 firstUsers) twoTabs = some b ∧ ∃ a ∈ b.server.minted, ∃ m ∈ b.server.minted,
      a.payload = access.value ∧ m.payload = refresh.value ∧
      (b.server.acceptsAccess access.value = true ↔ ¬ Expired b.server a ∧ UserExists b.server a) ∧
      (b.server.acceptsRefresh ⟨900000,604800000⟩ refresh.value = true ↔ ¬ Expired b.server m ∧
        UserExists b.server m) :=
  ⟨_,_,_,rfl,settled_accepted plainPlatform ⟨900000,604800000⟩ {} ⟨"/api/auth/refresh","/api/auth/logout"⟩ 0 firstUsers
    twoTabs _ rfl ⟨rfl,by decide⟩ _ _ rfl rfl⟩

end BoarPack.Auth
