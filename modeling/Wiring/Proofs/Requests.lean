import Wiring.Proofs.Entries

/-!
# Requests That Are Handled

What a request or its session keeps is found through the request that is being handled. A world is
valid if the requests on its stack and the sessions that requests belong to are there.

What is handled does not change while a container works. A request may join a session meanwhile,
but only a new one, and none leaves its session. Between operations of containers requests are
entered and left, and come to be; then it is what is kept that does not change.

## Conventions

The number of a request or session that is not there stands for one that keeps nothing.

## Main statements

* `World.Valid`: requests and sessions are there.
* `World.Continues`: what the work of a container does to requests and sessions.
* `World.Elapses`: what may happen between operations of containers.
* `Effect.valid`, `Effect.continues`, `Effect.attributes`: what effects do to both.
* `Container.Changes.contexts`, `Container.Changes.slots` and others: what changes leave alone.
-/

namespace Wiring

namespace World

/-! ### Valid worlds -/

/-- The request that is being handled. -/
def handled? (w : World) : Option Nat := w.currentExchange?.map Exchange.request

/-- The session of the request that is being handled, if it belongs to one. -/
def joined? (w : World) : Option Nat := w.handled?.bind fun r => (w.request r).session

/-- The requests that are being handled and the sessions that requests belong to are there. -/
structure Valid (w : World) : Prop where
  /-- The requests. -/
  current : ∀ e ∈ w.current, e.request < w.requests.size
  /-- The sessions. -/
  sessions : ∀ r id, (w.request r).session = some id → id < w.sessions.size

/-- A keeper is there. -/
def Keeper.IsIn (w : World) : Keeper → Prop
  | .request id => id < w.requests.size
  | .session id => id < w.sessions.size

variable {w w' : World} {r id : Nat} {e : Exchange}

/-- Only requests, sessions and the stack of requests matter. -/
theorem Valid.congr (h : w.Valid) (hcurrent : w'.current = w.current)
    (hrequests : w'.requests = w.requests) (hsessions : w'.sessions = w.sessions) : w'.Valid where
  current e he := by
    rw [hrequests]
    exact h.current e (hcurrent ▸ he)
  sessions r id hid := by
    have hsame : w'.request r = w.request r := by rw [request, request, hrequests]
    rw [hsessions]
    exact h.sessions r id (hsame ▸ hid)

/-- The request that is handled is there. -/
theorem Valid.lt_of_handled? (h : w.Valid) (hr : w.handled? = some r) : r < w.requests.size := by
  obtain ⟨e, he, rfl⟩ := Option.map_eq_some_iff.mp hr
  exact h.current e (List.mem_of_mem_head? he)

/-- The session that it is in is there. -/
theorem Valid.lt_of_joined? (h : w.Valid) (hid : w.joined? = some id) : id < w.sessions.size := by
  obtain ⟨r, -, hid⟩ := Option.bind_eq_some_iff.mp hid
  exact h.sessions r id hid

/-! ### Changes of requests and sessions -/

/-- A request that is added is the last one. -/
theorem request_addRequest (q : Request) (r : Nat) :
    (w.addRequest q).2.request r = if r = w.requests.size then q else w.request r := by
  simp only [request, addRequest, Array.getElem?_push]
  split <;> rfl

/-- A world stays valid if a request is added whose session is there. -/
theorem Valid.addRequest (h : w.Valid) {q : Request}
    (hq : ∀ id, q.session = some id → id < w.sessions.size) : (w.addRequest q).2.Valid where
  current e he := by
    have hlt := h.current e he
    simp only [World.addRequest, Array.size_push]
    omega
  sessions r id hid := by
    rw [request_addRequest] at hid
    split at hid
    · exact hq id hid
    · exact h.sessions r id hid

/-- A world stays valid if a session is added. -/
theorem Valid.addSession (h : w.Valid) : w.addSession.2.Valid where
  current := h.current
  sessions r id hid := by
    have hlt := h.sessions r id hid
    simp only [World.addSession, Array.size_push]
    omega

/-- The session of a request that joins one. -/
theorem session_join (r id r' : Nat) :
    ((w.modifyRequest r fun q => { q with session := some id }).request r').session =
      if r' = r ∧ r < w.requests.size then some id else (w.request r').session := by
  simp only [request, modifyRequest, Array.getElem?_modify]
  by_cases heq : r = r'
  · subst heq
    by_cases hlt : r < w.requests.size
    · simp [hlt]
    · simp [hlt]
  · have hne : ¬ (r' = r ∧ r < w.requests.size) := fun h => heq h.1.symm
    rw [if_neg heq, if_neg hne]

/-- A world stays valid if a request joins a session that is there. -/
theorem Valid.join (h : w.Valid) (r : Nat) (hid : id < w.sessions.size) :
    (w.modifyRequest r fun q => { q with session := some id }).Valid where
  current e he := by
    have hlt := h.current e he
    simpa [modifyRequest] using hlt
  sessions r' id' hid' := by
    rw [session_join] at hid'
    split at hid'
    · cases hid'
      exact hid
    · exact h.sessions r' id' hid'

/-! ### Keeping an instance -/

variable {K K' : Keeper} {key key' : Key} {i : Instance}

/-- A keeper that is there keeps what it is given. -/
theorem get?_setAttribute_self (hK : K.IsIn w) :
    ((w.setAttribute K key i).attributes K).get? key = some i := by
  cases K with
  | request id =>
    have hlt : id < w.requests.size := hK
    simp [setAttribute, modifyAttributes, modifyRequest, attributes, request, hlt,
      Array.getElem_modify]
  | session id =>
    have hlt : id < w.sessions.size := hK
    simp [setAttribute, modifyAttributes, modifySession, attributes, session, hlt,
      Array.getElem_modify]

/-- What is kept under other keys or by others does not change. -/
theorem get?_setAttribute_of_ne (h : K' ≠ K ∨ key' ≠ key) :
    ((w.setAttribute K key i).attributes K').get? key' = (w.attributes K').get? key' := by
  by_cases hkey : key' = key
  · have hK : K' ≠ K := h.resolve_right fun hne => hne hkey
    cases K <;> cases K' <;>
      simp_all [setAttribute, modifyAttributes, modifyRequest, modifySession, attributes, request,
        session, Array.getElem?_modify, eq_comm]
  · rcases w.attributes_setAttribute K key i K' with heq | heq
    · rw [heq]
    · rw [heq, Table.get?_insert, if_neg fun heq => hkey heq.symm]

/-- Attributes do not matter to which request is handled. -/
theorem current_setAttribute : (w.setAttribute K key i).current = w.current := by cases K <;> rfl

/-- They do not matter to the sessions of requests. -/
theorem session_setAttribute (r : Nat) :
    ((w.setAttribute K key i).request r).session = (w.request r).session := by
  cases K with
  | session id => rfl
  | request id =>
    simp only [setAttribute, modifyAttributes, modifyRequest, request, Array.getElem?_modify]
    split
    · cases w.requests[r]? <;> rfl
    · rfl

/-- They do not matter to the parameters of requests. -/
theorem parameters_setAttribute (r : Nat) :
    ((w.setAttribute K key i).request r).parameters = (w.request r).parameters := by
  cases K with
  | session id => rfl
  | request id =>
    simp only [setAttribute, modifyAttributes, modifyRequest, request, Array.getElem?_modify]
    split
    · cases w.requests[r]? <;> rfl
    · rfl

/-- They do not matter to whether a world is valid. -/
theorem Valid.setAttribute (h : w.Valid) : (w.setAttribute K key i).Valid where
  current e he := by
    have hcurrent : (w.setAttribute K key i).current = w.current := current_setAttribute
    have hlt := h.current e (hcurrent ▸ he)
    cases K <;> simpa [World.setAttribute, modifyAttributes, modifyRequest, modifySession] using hlt
  sessions r id hid := by
    rw [session_setAttribute] at hid
    have hlt := h.sessions r id hid
    cases K <;> simpa [World.setAttribute, modifyAttributes, modifyRequest, modifySession] using hlt

/-! ### What the work of a container does -/

/-- One world comes from another by the work of a container: the same requests are handled, and a
request may have joined a new session. -/
structure Continues (w w' : World) : Prop where
  /-- The same requests are handled. -/
  current : w'.current = w.current
  /-- No session is taken away. -/
  size : w.sessions.size ≤ w'.sessions.size
  /-- A request stays in its session. -/
  stays : ∀ r id, (w.request r).session = some id → (w'.request r).session = some id
  /-- The session that a request joins is new. -/
  joins : ∀ r id, (w.request r).session = none → (w'.request r).session = some id →
    w.sessions.size ≤ id

/-- A world continues as it is. -/
theorem Continues.refl (w : World) : w.Continues w where
  current := rfl
  size := Nat.le_refl _
  stays _ _ h := h
  joins r id hnone hid := by
    rw [hnone] at hid
    cases hid

/-- The sessions of requests are all that matters. -/
theorem Continues.of_session (hcurrent : w'.current = w.current)
    (hsize : w.sessions.size ≤ w'.sessions.size)
    (h : ∀ r, (w'.request r).session = (w.request r).session) : w.Continues w' where
  current := hcurrent
  size := hsize
  stays r id hid := by rw [h, hid]
  joins r id hnone hid := by
    rw [h, hnone] at hid
    cases hid

/-- Entries in the journal change nothing about requests and sessions. -/
theorem continues_emit (w : World) (e : Event) : w.Continues (w.emit e) :=
  .of_session rfl (Nat.le_refl _) fun _ => rfl

/-- Entries in the journal do not matter to attributes. -/
theorem attributes_emit (w : World) (e : Event) (K : Keeper) :
    (w.emit e).attributes K = w.attributes K := by cases K <;> rfl

/-- They do not matter to whether a world is valid. -/
theorem Valid.emit (h : w.Valid) (e : Event) : (w.emit e).Valid := h.congr rfl rfl rfl

theorem Continues.trans {w'' : World} (h : w.Continues w') (h' : w'.Continues w'') :
    w.Continues w'' where
  current := h'.current.trans h.current
  size := Nat.le_trans h.size h'.size
  stays r id hid := h'.stays r id (h.stays r id hid)
  joins r id hnone hid := by
    cases hmid : (w'.request r).session with
    | none => exact Nat.le_trans h.size (h'.joins r id hmid hid)
    | some id' =>
      have hlast := h'.stays r id' hmid
      rw [hid] at hlast
      cases hlast
      exact h.joins r id hnone hmid

/-- As a world continues, the same request is handled. -/
theorem Continues.handled? (h : w.Continues w') : w'.handled? = w.handled? := by
  rw [World.handled?, World.handled?, currentExchange?, currentExchange?, h.current]

/-- The session of the request that is being handled stays the same. -/
theorem Continues.joined? (h : w.Continues w') (hid : w.joined? = some id) :
    w'.joined? = some id := by
  obtain ⟨r, hr, hid⟩ := Option.bind_eq_some_iff.mp hid
  exact Option.bind_eq_some_iff.mpr ⟨r, h.handled?.trans hr, h.stays r id hid⟩

/-- The session that the request joins is new. -/
theorem Continues.size_le_of_joined? (h : w.Continues w') (hnone : w.joined? = none)
    (hid : w'.joined? = some id) : w.sessions.size ≤ id := by
  obtain ⟨r, hr, hid⟩ := Option.bind_eq_some_iff.mp hid
  rw [h.handled?] at hr
  refine h.joins r id ?_ hid
  rwa [World.joined?, hr] at hnone

/-- A session that is not there keeps nothing. -/
theorem attributes_session_of_le (hid : w.sessions.size ≤ id) :
    w.attributes (.session id) = ∅ := by
  simp only [attributes, session, Array.getElem?_eq_none hid]
  rfl

/-! ### What may happen between operations -/

/-- What may happen to a world between operations of containers: requests are entered and left in
any order, requests, responses, sessions and things come to be. But what is kept does not change,
and no request leaves its session. -/
structure Elapses (w w' : World) : Prop where
  /-- The world stays valid. -/
  valid : w'.Valid
  /-- What is kept does not change. -/
  attributes : ∀ K : Keeper, w'.attributes K = w.attributes K
  /-- A request stays in its session. -/
  stays : ∀ r id, (w.request r).session = some id → (w'.request r).session = some id

theorem Elapses.trans {w'' : World} (h : w.Elapses w') (h' : w'.Elapses w'') : w.Elapses w'' where
  valid := h'.valid
  attributes K := (h'.attributes K).trans (h.attributes K)
  stays r id hid := h'.stays r id (h.stays r id hid)

/-- Entries in the journal may be made. -/
theorem elapses_emit (h : w.Valid) (e : Event) : w.Elapses (w.emit e) where
  valid := h.emit e
  attributes := attributes_emit w e
  stays _ _ hid := hid

/-- A request may be entered that is there, be it for the first time or again. -/
theorem elapses_enter (h : w.Valid) (he : e.request < w.requests.size) :
    w.Elapses (w.enter e) where
  valid :=
    { current := fun _ he' => (List.mem_cons.mp he').elim (fun heq => heq ▸ he) (h.current _)
      sessions := h.sessions }
  attributes K := by cases K <;> rfl
  stays _ _ hid := hid

/-- The innermost request may be left. -/
theorem elapses_leave (h : w.Valid) : w.Elapses w.leave where
  valid :=
    { current := fun e he => h.current e (List.mem_of_mem_tail he)
      sessions := h.sessions }
  attributes K := by cases K <;> rfl
  stays _ _ hid := hid

/-- A request may come to be, in a session that is there or in none. -/
theorem elapses_addRequest (h : w.Valid) {q : Request} (hempty : q.attributes = ∅)
    (hq : ∀ id, q.session = some id → id < w.sessions.size) : w.Elapses (w.addRequest q).2 where
  valid := h.addRequest hq
  attributes K := attributes_addRequest hempty K
  stays r id hid := by
    rw [request_addRequest]
    split
    · next heq =>
      simp [heq, request, default] at hid
      cases hid
    · exact hid

/-- A session may come to be. -/
theorem elapses_addSession (h : w.Valid) : w.Elapses w.addSession.2 where
  valid := h.addSession
  attributes := attributes_addSession
  stays _ _ hid := hid

end World

/-- Keeping an instance enters nothing in the journal. -/
theorem State.entered_setAttribute (s : State) (K : World.Keeper) (key : Key) (i : Instance) :
    s.Entered (s.inWorld (s.world.setAttribute K key i)) [] := by
  simp [State.Entered, State.inWorld, World.journal_setAttribute]

/-! ### Effects -/

namespace Effect

variable {c : Container} {ok : Instance → Prop} {s s' : State}

/-- The same requests are handled after an effect. -/
theorem continues (h : Effect c ok s s') : s.world.Continues s'.world := by
  cases h with
  | request method path =>
    refine .of_session rfl (Nat.le_refl _) fun r => ?_
    rw [State.inWorld, World.request_addRequest]
    split
    · next heq =>
      simp [heq, Request.new, World.request, default]
      rfl
    · rfl
  | session =>
    refine .of_session rfl ?_ fun _ => rfl
    simp [State.inWorld, World.addSession]
  | join request hnone =>
    refine ⟨rfl, ?_, fun r id hid => ?_, fun r id hnone' hid => ?_⟩
    · simp [State.inWorld, World.addSession, World.modifyRequest]
    · rw [State.inWorld, World.session_join]
      split
      · next heq =>
        rw [heq.1, hnone] at hid
        cases hid
      · exact hid
    · rw [State.inWorld, World.session_join] at hid
      split at hid
      · cases hid
        exact Nat.le_refl _
      · have hsame : (s.world.request r).session = some id := hid
        rw [hnone'] at hsame
        cases hsame
  | keep k key i _ _ =>
    refine .of_session World.current_setAttribute ?_ World.session_setAttribute
    cases k <;> simp [State.inWorld, World.setAttribute, World.modifyAttributes,
      World.modifyRequest, World.modifySession]
  | _ => exact .of_session rfl (Nat.le_refl _) fun _ => rfl

/-- A world stays valid by effects. -/
theorem valid (h : Effect c ok s s') (hs : s.world.Valid) : s'.world.Valid := by
  cases h with
  | request method path => exact hs.addRequest nofun
  | session => exact hs.addSession
  | join request _ =>
    refine hs.addSession.join request ?_
    simp [World.addSession]
  | keep k key i _ _ => exact hs.setAttribute
  | _ => exact hs.congr rfl rfl rfl

/-- An effect by which nothing begins to be kept leaves alone what is kept. -/
theorem attributes (h : Effect c (fun _ => False) s s') (K : World.Keeper) :
    s'.world.attributes K = s.world.attributes K := by
  cases h with
  | request method path => exact World.attributes_addRequest rfl K
  | session => exact World.attributes_addSession K
  | join request _ =>
    exact (World.attributes_join request _ K).trans (World.attributes_addSession K)
  | keep k key i hi _ => exact hi.elim
  | _ => cases K <;> rfl

/-- Effects leave the parameters of requests alone. -/
theorem parameters (h : Effect c ok s s') (r : Nat) :
    (s'.world.request r).parameters = (s.world.request r).parameters := by
  cases h with
  | request method path =>
    rw [State.inWorld, World.request_addRequest]
    split
    · next heq =>
      simp [heq, Request.new, World.request, default]
      rfl
    · rfl
  | join request _ =>
    simp only [State.inWorld, World.modifyRequest, World.request, World.addSession,
      Array.getElem?_modify]
    split
    · cases s.world.requests[r]? <;> rfl
    · rfl
  | keep k key i _ _ => exact World.parameters_setAttribute r
  | _ => rfl

/-- An effect by which nothing begins to be kept leaves contexts alone. -/
theorem contexts (h : Effect c (fun _ => False) s s') : s'.world.contexts = s.world.contexts := by
  cases h with
  | keep k key i hi _ => exact hi.elim
  | context name key i hi => exact hi.elim
  | _ => rfl

end Effect

namespace Container.Changes

variable {c : Container} {s s' : State}

/-- What is put together from effects by which nothing begins to be kept goes on like them. -/
theorem continues (h : c.Changes s s') : s.world.Continues s'.world := by
  induction h with
  | refl => exact .refl _
  | tail _ heffect ih => exact ih.trans heffect.continues

/-- What a container changes leaves a world valid. -/
theorem valid (h : c.Changes s s') (hs : s.world.Valid) : s'.world.Valid := by
  induction h with
  | refl => exact hs
  | tail _ heffect ih => exact heffect.valid ih

/-- It leaves attributes as they are. -/
theorem attributes (h : c.Changes s s') (K : World.Keeper) :
    s'.world.attributes K = s.world.attributes K := by
  induction h with
  | refl => rfl
  | tail _ heffect ih => exact (heffect.attributes K).trans ih

/-- It leaves the parameters of requests as they are. -/
theorem parameters (h : c.Changes s s') (r : Nat) :
    (s'.world.request r).parameters = (s.world.request r).parameters := by
  induction h with
  | refl => rfl
  | tail _ heffect ih => exact (heffect.parameters r).trans ih

/-- It leaves contexts as they are. -/
theorem contexts (h : c.Changes s s') : s'.world.contexts = s.world.contexts := by
  induction h with
  | refl => rfl
  | tail _ heffect ih => exact heffect.contexts.trans ih

/-- It leaves slots as they are. -/
theorem slots (h : c.Changes s s') : s'.memory.slots = s.memory.slots := by
  induction h with
  | refl => rfl
  | tail _ heffect ih => exact heffect.slots.trans ih

/-- It leaves deferred bindings as they are. -/
theorem deferred (h : c.Changes s s') : s'.memory.deferred = s.memory.deferred := by
  induction h with
  | refl => rfl
  | tail _ heffect ih => exact heffect.deferred.trans ih

/-- What is put together from such effects may happen between operations, too. -/
theorem elapses (h : c.Changes s s') (hs : s.world.Valid) : s.world.Elapses s'.world where
  valid := h.valid hs
  attributes := h.attributes
  stays := h.continues.stays

end Container.Changes

/-- The session of the request that is being handled, once it is asked for. -/
theorem World.joined?_sessionOf {w : World} {e : Exchange} (h : w.Valid)
    (he : w.currentExchange? = some e) :
    (w.sessionOf e.request).2.joined? = some (w.sessionOf e.request).1 := by
  have hhandled : w.handled? = some e.request := by
    rw [handled?, he]
    rfl
  unfold sessionOf
  split
  · next id hid =>
    rw [joined?, hhandled]
    exact hid
  · next hnone =>
    have hlt := h.lt_of_handled? hhandled
    have hsame : (w.addSession.2.modifyRequest e.request fun r =>
        { r with session := some w.sessions.size }).handled? = some e.request := hhandled
    change ((w.addSession.2.modifyRequest e.request fun r =>
        { r with session := some w.sessions.size }).joined?) = some w.sessions.size
    rw [joined?, hsame, Option.bind_some, session_join]
    exact if_pos ⟨rfl, hlt⟩

end Wiring
