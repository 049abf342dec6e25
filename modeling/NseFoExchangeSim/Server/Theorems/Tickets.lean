import NseFoExchangeSim.Lib.Counter
import NseFoExchangeSim.Server.Gateway

/-!
# Whose ticket a connection gets

Tickets are matched by the address of the peer only. The connections accepted from an address get the
tickets issued to that address in the order of issue, whoever they were issued to.
-/

namespace NseFoExchangeSim.Server

open Lib Protocol

variable {config : Config} {s s' : AppState} {h before after : List AppEvent} {ticket t : SessionTicket}
  {client : Client} {peerIp : String} {response : GatewayRouterResponse}

abbrev forPeer (peerIp : String) (tickets : List SessionTicket) : List SessionTicket :=
  ofKey (·.peerIp) peerIp tickets

abbrev sessionKeyAt (i : Nat) : UInt64 := drawn 1 i

/-! ## What holds of every run -/

/-- The tickets are handed out address by address in turn, with session keys drawn in sequence. -/
structure Ticketed (config : Config) (h : List AppEvent) (s : AppState) : Prop where
  fifo : Fifo (·.peerIp) (issuedTickets h) (boundTickets h) s.tickets
  next : s.nextSessionKey = sessionKeyAt (keysDrawn h)
  keys : ∀ t ∈ issuedTickets h, ∃ i < keysDrawn h, t.sessionKey = sessionKeyAt i
  distinct : keysDrawn h ≤ 2 ^ 64 → ((issuedTickets h).map (·.sessionKey)).Nodup
  boxes : ∀ t ∈ issuedTickets h, t.boxId = config.boxId
  told : ∀ client t response, AppEvent.issued client t (some response) ∈ h →
    response = gatewayRouterResponse t

theorem Ticketed.init (config : Config) : Ticketed config [] .init where
  fifo := .nil
  next := rfl
  keys := by simp [issuedTickets]
  distinct := by simp [issuedTickets]
  boxes := by simp [issuedTickets]
  told := by simp

/-- An event that issues no ticket and tells nobody anything. -/
theorem Ticketed.quiet {e : AppEvent} (ht : Ticketed config h s) (he : e.ticket? = none)
    (hfifo : Fifo (·.peerIp) (issuedTickets h) (boundTickets (h ++ [e])) s'.tickets)
    (hnext : s'.nextSessionKey = sessionKeyAt (keysDrawn (h ++ [e]))) : Ticketed config (h ++ [e]) s' := by
  have hissued : issuedTickets (h ++ [e]) = issuedTickets h := by simp [issuedTickets, he]
  have hdrawn : keysDrawn h ≤ keysDrawn (h ++ [e]) := by
    rw [keysDrawn, keysDrawn, List.countP_append]
    omega
  refine ⟨by rw [hissued]; exact hfifo, hnext, ?_, ?_, by rw [hissued]; exact ht.boxes, ?_⟩
  · rw [hissued]
    intro t hmem
    obtain ⟨i, hi, hkey⟩ := ht.keys t hmem
    exact ⟨i, by omega, hkey⟩
  · rw [hissued]
    intro hle
    exact ht.distinct (by omega)
  · intro client t response hmem
    rcases List.mem_append.mp hmem with hmem | hmem
    · exact ht.told client t response hmem
    · rw [← List.mem_singleton.mp hmem] at he
      cases he

/-- A ticket is issued, with the next session key. -/
theorem Ticketed.issue {answer : Option GatewayRouterResponse} (ht : Ticketed config h s)
    (hkey : ticket.sessionKey = s.nextSessionKey) (hbox : ticket.boxId = config.boxId)
    (htold : ∀ response, answer = some response → response = gatewayRouterResponse ticket)
    (htickets : s'.tickets = s.tickets ++ [ticket]) (hnext : s'.nextSessionKey = s.nextSessionKey + 1) :
    Ticketed config (h ++ [.issued client ticket answer]) s' := by
  have hissued : issuedTickets (h ++ [.issued client ticket answer]) = issuedTickets h ++ [ticket] := by
    simp [issuedTickets, AppEvent.ticket?]
  have hbound : boundTickets (h ++ [.issued client ticket answer]) = boundTickets h := by
    simp [boundTickets, AppEvent.bound?]
  have hdrawn : keysDrawn (h ++ [.issued client ticket answer]) = keysDrawn h + 1 := by
    simp [keysDrawn, AppEvent.drawsKey]
  refine ⟨?_, ?_, ?_, ?_, ?_, ?_⟩
  · rw [hissued, hbound, htickets]
    exact ht.fifo.add ticket
  · rw [hnext, ht.next, hdrawn]
    exact (drawn_succ 1 _).symm
  · rw [hissued, hdrawn]
    intro t hmem
    rcases List.mem_append.mp hmem with hmem | hmem
    · obtain ⟨i, hi, hk⟩ := ht.keys t hmem
      exact ⟨i, by omega, hk⟩
    · rw [List.mem_singleton.mp hmem]
      exact ⟨keysDrawn h, by omega, hkey.trans ht.next⟩
  · rw [hissued, hdrawn, List.map_append, List.nodup_append']
    intro hle
    refine ⟨ht.distinct (by omega), by simp, ?_⟩
    -- the key is drawn after those of the earlier tickets
    rintro key hmem hnew
    obtain ⟨t, htmem, rfl⟩ := List.mem_map.mp hmem
    obtain ⟨i, hi, hk⟩ := ht.keys t htmem
    rw [List.map_singleton, List.mem_singleton, hk, hkey, ht.next] at hnew
    have heq := drawn_inj (by omega) (by omega) hnew
    omega
  · rw [hissued]
    intro t hmem
    rcases List.mem_append.mp hmem with hmem | hmem
    · exact ht.boxes t hmem
    · rw [List.mem_singleton.mp hmem]
      exact hbox
  · intro client' t response hmem
    rcases List.mem_append.mp hmem with hmem | hmem
    · exact ht.told client' t response hmem
    · rw [List.mem_singleton, AppEvent.issued.injEq] at hmem
      obtain ⟨_, rfl, hanswer⟩ := hmem
      exact htold response hanswer.symm

theorem claimForPeer_eq (tickets : PendingTicketStore) (peerIp : String) :
    tickets.claimForPeer peerIp = claimFirst (·.peerIp) peerIp tickets := by
  rw [PendingTicketStore.claimForPeer, claimFirst]
  cases tickets.find? fun ticket => ticket.peerIp == peerIp with
  | none => rfl
  | some ticket => rfl

theorem Ticketed.step (ht : Ticketed config h s) (a : AppAction) :
    Ticketed config (h ++ (app config s a).1) (app config s a).2 := by
  cases a with
  | gateway client peerIp random delivered =>
      cases random with
      | none =>
          apply ht.quiet rfl
          · simpa [boundTickets, AppEvent.bound?, app, handleGatewayClient] using ht.fifo
          · simp [keysDrawn, AppEvent.drawsKey, drawn_succ, app, handleGatewayClient, ht.next]
      | some bytes =>
          obtain ⟨cryptoKey, cryptoIv⟩ := bytes
          refine ht.issue rfl rfl (fun response hr => ?_) rfl rfl
          cases delivered with
          | true => exact (Option.some.inj hr).symm
          | false => cases hr
  | connect client peerIp =>
      simp only [app, acceptSession]
      split
      · rename_i tickets hclaim
        rw [claimForPeer_eq] at hclaim
        have hsame := claimFirst_none (congrArg Prod.fst hclaim)
        rw [hclaim] at hsame
        subst hsame
        apply ht.quiet rfl
        · simpa [boundTickets, AppEvent.bound?] using ht.fifo
        · simpa [keysDrawn, AppEvent.drawsKey] using ht.next
      · rename_i bound tickets hclaim
        rw [claimForPeer_eq] at hclaim
        have hfifo := ht.fifo.claim (congrArg Prod.fst hclaim)
        rw [hclaim] at hfifo
        apply ht.quiet rfl
        · simpa [boundTickets, AppEvent.bound?] using hfifo
        · simpa [keysDrawn, AppEvent.drawsKey] using ht.next

theorem ticketed (r : Run (app config) anyCall .init h s) : Ticketed config h s :=
  r.invariant (.init config) fun _ _ a _ ht _ => ht.step a

/-! ## Turns -/

/-- As many connections from the address have been bound as tickets had been issued to it before this
one, which is of that address too. -/
def ItsTurn (before h : List AppEvent) (ticket : SessionTicket) (peerIp : String) : Prop :=
  peerIp = ticket.peerIp ∧
    (forPeer peerIp (boundTickets h)).length = (forPeer peerIp (issuedTickets before)).length

/-- What the session listener answers to a connection. -/
def answer (client : Client) (sessionId : UInt64) : Option SessionTicket → AppEvent
  | some ticket => .bound client sessionId ticket
  | none => .refused client

/-- The next connection from an address is bound to the ticket that was issued to the address after as
many others as there have been connections from it. -/
theorem connect_eq (ht : Ticketed config h s) (client : Client) (peerIp : String) :
    (app config s (.connect client peerIp)).1 =
      [answer client s.nextConnectionId
        (forPeer peerIp (issuedTickets h))[(forPeer peerIp (boundTickets h)).length]?] := by
  rw [← ht.fifo.claim_eq peerIp, ← claimForPeer_eq]
  simp only [app, acceptSession]
  cases hc : s.tickets.claimForPeer peerIp with
  | mk found tickets =>
      cases found with
      | none => rfl
      | some ticket => rfl

theorem issuedTickets_split (ticket : SessionTicket) (told : Option GatewayRouterResponse) :
    issuedTickets (before ++ .issued client ticket told :: after) =
      issuedTickets before ++ ticket :: issuedTickets after := by
  simp [issuedTickets, AppEvent.ticket?]

theorem ItsTurn.getElem? (hissued : issuedTickets h = issuedTickets before ++ ticket :: issuedTickets after)
    (hturn : ItsTurn before h ticket peerIp) :
    (forPeer peerIp (issuedTickets h))[(forPeer peerIp (boundTickets h)).length]? = some ticket := by
  obtain ⟨rfl, hlen⟩ := hturn
  have hsplit : forPeer ticket.peerIp (issuedTickets h) =
      forPeer ticket.peerIp (issuedTickets before) ++
        ticket :: forPeer ticket.peerIp (issuedTickets after) := by
    rw [hissued, forPeer, ofKey_append]
    simp [ofKey]
  rw [hsplit, hlen, List.getElem?_append_right (Nat.le_refl _), Nat.sub_self]
  rfl

/-- A ticket with the same session key is handed out in its turn only. -/
theorem itsTurn_of_sessionKey
    (hissued : issuedTickets h = issuedTickets before ++ ticket :: issuedTickets after)
    (hdistinct : ((issuedTickets h).map (·.sessionKey)).Nodup)
    (hget : (forPeer peerIp (issuedTickets h))[(forPeer peerIp (boundTickets h)).length]? = some t)
    (hkey : t.sessionKey = ticket.sessionKey) : ItsTurn before h ticket peerIp := by
  have hmem : t ∈ forPeer peerIp (issuedTickets h) := List.mem_of_getElem? hget
  obtain ⟨htmem, hpeer⟩ := mem_ofKey.mp hmem
  have hticket : ticket ∈ issuedTickets h := by simp [hissued]
  have hsame : t = ticket := List.inj_on_of_nodup_map hdistinct htmem hticket hkey
  subst hsame
  subst hpeer
  refine ⟨rfl, ?_⟩
  -- both positions hold the ticket, and no ticket of the address stands in two
  have hnodup : (forPeer t.peerIp (issuedTickets h)).Nodup :=
    (List.Nodup.of_map _ hdistinct).sublist List.filter_sublist
  have hsplit : forPeer t.peerIp (issuedTickets h) =
      forPeer t.peerIp (issuedTickets before) ++ t :: forPeer t.peerIp (issuedTickets after) := by
    rw [hissued, forPeer, ofKey_append]
    simp [ofKey]
  have hown : (forPeer t.peerIp (issuedTickets h))[
      (forPeer t.peerIp (issuedTickets before)).length]? = some t := by
    rw [hsplit, List.getElem?_append_right (Nat.le_refl _), Nat.sub_self]
    rfl
  have hlt := (List.getElem?_eq_some_iff.mp hget).1
  exact (List.getElem?_inj hlt hnodup).mp (hget.trans hown.symm)

/-- The sign-on of a client that was told of one ticket passes for another exactly when the session
keys are the same, as all tickets have the same box. -/
theorem boxSignOnValid_told (hbox : t.boxId = ticket.boxId) :
    boxSignOnValid t (gatewayRouterResponse ticket).signOn = true ↔
      t.sessionKey = ticket.sessionKey := by
  simp only [boxSignOnValid, GatewayRouterResponse.signOn, gatewayRouterResponse, byteswap_byteswap]
  simpa [hbox] using eq_comm

/-! ## Every connection is bound in turn -/

/-- The connections from an address are bound to the tickets of the address in the order of issue. So
a client that has got a response and opens a session connection is bound to its own ticket, and its
box sign-on passes, when as many connections from the address have been bound as tickets were issued
to the address before its own; and only then, while the session keys have not come round. -/
theorem connection_bound_in_turn (r : Run (app config) anyCall .init h s)
    (hh : h = before ++ .issued client ticket (some response) :: after) (peerIp : String) :
    (∀ other peerIp', (app config s (.connect other peerIp')).1 =
      [answer other s.nextConnectionId
        (forPeer peerIp' (issuedTickets h))[(forPeer peerIp' (boundTickets h)).length]?]) ∧
      (ItsTurn before h ticket peerIp →
        (app config s (.connect client peerIp)).1 = [.bound client s.nextConnectionId ticket] ∧
          boxSignOnValid ticket response.signOn = true) ∧
      (keysDrawn h ≤ 2 ^ 64 → ¬ItsTurn before h ticket peerIp → ∀ sessionId t,
        (app config s (.connect client peerIp)).1 = [.bound client sessionId t] →
          t ≠ ticket ∧ boxSignOnValid t response.signOn = false) := by
  have ht := ticketed r
  have hissued : issuedTickets h = issuedTickets before ++ ticket :: issuedTickets after := by
    rw [hh]
    exact issuedTickets_split ticket (some response)
  have hresponse : response = gatewayRouterResponse ticket :=
    ht.told client ticket response (by simp [hh])
  have hmem : ticket ∈ issuedTickets h := by simp [hissued]
  refine ⟨connect_eq ht, fun hturn => ⟨?_, ?_⟩, fun hkeys hturn sessionId t hbound => ?_⟩
  · rw [connect_eq ht, hturn.getElem? hissued, answer]
  · rw [hresponse]
    exact (boxSignOnValid_told rfl).mpr rfl
  · rw [connect_eq ht] at hbound
    cases hget : (forPeer peerIp (issuedTickets h))[(forPeer peerIp (boundTickets h)).length]? with
    | none =>
        rw [hget] at hbound
        cases hbound
    | some bound =>
        rw [hget] at hbound
        cases hbound
        have hkey : t.sessionKey ≠ ticket.sessionKey := fun hkey =>
          hturn (itsTurn_of_sessionKey hissued (ht.distinct hkeys) hget hkey)
        refine ⟨fun he => hkey (by rw [he]), ?_⟩
        have htmem := (mem_ofKey.mp (List.mem_of_getElem? hget)).1
        have hbox : t.boxId = ticket.boxId := (ht.boxes t htmem).trans (ht.boxes ticket hmem).symm
        rw [hresponse, ← Bool.not_eq_true, boxSignOnValid_told hbox]
        exact hkey

/-! ## Two clients behind one address -/

/-- The exchange of a client whose key and IV are all one byte. -/
def exchange (client : Client) (byte : UInt8) : AppAction :=
  .gateway client "10.0.0.7" (some (.replicate 32 byte, .replicate 16 byte)) true

def ticketOf (sessionKey : UInt64) (byte : UInt8) : SessionTicket where
  peerIp := "10.0.0.7"
  boxId := 1
  sessionKey := sessionKey
  cryptoKey := .replicate 32 byte
  cryptoIv := .replicate 16 byte

def told (client : Client) (sessionKey : UInt64) (byte : UInt8) : AppEvent :=
  .issued client (ticketOf sessionKey byte)
    (some (gatewayRouterResponse (ticketOf sessionKey byte)))

theorem connection_bound_in_turn_first :
    (app {} (exec (app {}) .init [exchange 1 7, exchange 2 8]).2 (.connect 1 "10.0.0.7")).1 =
      [.bound 1 1 (ticketOf 1 7)] := by
  have hsplit : (exec (app {}) .init [exchange 1 7, exchange 2 8]).1 =
      [] ++ told 1 1 7 :: [told 2 2 8] := by decide +kernel
  have hbound := (connection_bound_in_turn (run_exec (app {}) .init [exchange 1 7, exchange 2 8])
    hsplit "10.0.0.7").2.1 ⟨rfl, by decide +kernel⟩
  exact hbound.1

/-- The second client connects first: it is bound to the ticket of the first, and its sign-on fails. -/
theorem bound_to_another :
    (exec (app {}) .init [exchange 1 7, exchange 2 8, .connect 2 "10.0.0.7"]).1 =
        [told 1 1 7, told 2 2 8, .bound 2 1 (ticketOf 1 7)] ∧
      ticketOf 1 7 ≠ ticketOf 2 8 ∧
      boxSignOnValid (ticketOf 1 7) (gatewayRouterResponse (ticketOf 2 8)).signOn = false := by
  decide +kernel

end NseFoExchangeSim.Server
