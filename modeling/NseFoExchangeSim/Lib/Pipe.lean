import NseFoExchangeSim.Lib.Fallible

/-!
# Items on the way

A sender turns items into bytes, and a receiver that agrees with it takes them back. `Link` says of the
two ends which items are on the way and which bytes carry them. What is sent is added at the end and
what is received is taken from the front, whatever the other end does meanwhile.
-/

namespace Lib

variable {S R P B ε : Type}

section Sending

variable (send : P → S → Except ε (List B × S))

/-- The items one after another. -/
def sendAll : List P → S → Except ε (List B × S)
  | [], s => .ok ([], s)
  | item :: items, s => do
      let (bytes, s) ← send item s
      let (more, s) ← sendAll items s
      return (bytes ++ more, s)

variable (agree : S → R → Prop)

/-- The sender was at a place with which the receiver agrees, and has sent the items since. -/
def Link (sender : S) (receiver : R) (items : List P) (wire : List B) : Prop :=
  ∃ s, agree s receiver ∧ sendAll send items s = .ok (wire, sender)

end Sending

section Links

variable {send : P → S → Except ε (List B × S)} {agree : S → R → Prop} {sender sender' : S}
  {receiver receiver' : R} {item : P} {items more : List P} {wire bytes : List B}

theorem sendAll_cons_ok :
    sendAll send (item :: items) sender = .ok (wire, sender') ↔
      ∃ bytes middle rest, send item sender = .ok (bytes, middle) ∧
        sendAll send items middle = .ok (rest, sender') ∧ wire = bytes ++ rest := by
  rw [sendAll]
  constructor
  · intro h
    obtain ⟨⟨bytes, middle⟩, hitem, h⟩ := bind_eq_ok h
    obtain ⟨⟨rest, last⟩, hitems, h⟩ := bind_eq_ok h
    cases h
    exact ⟨bytes, middle, rest, hitem, hitems, rfl⟩
  · rintro ⟨bytes, middle, rest, hitem, hitems, rfl⟩
    simp [hitem, hitems, bind, Except.bind, pure, Except.pure]

theorem sendAll_append (h : sendAll send items sender = .ok (wire, sender'))
    {last : S} (hmore : sendAll send more sender' = .ok (bytes, last)) :
    sendAll send (items ++ more) sender = .ok (wire ++ bytes, last) := by
  induction items generalizing sender wire with
  | nil =>
      cases h
      exact hmore
  | cons item items ih =>
      obtain ⟨first, middle, rest, hitem, hitems, rfl⟩ := sendAll_cons_ok.mp h
      rw [List.cons_append, List.append_assoc]
      exact sendAll_cons_ok.mpr ⟨first, middle, _, hitem, ih hitems, rfl⟩

theorem link_nil (h : agree sender receiver) : Link send agree sender receiver [] [] :=
  ⟨sender, h, rfl⟩

theorem Link.of_nil (h : Link send agree sender receiver [] wire) :
    agree sender receiver ∧ wire = [] := by
  obtain ⟨s, hagree, hsent⟩ := h
  cases hsent
  exact ⟨hagree, rfl⟩

/-- The sender sends more. -/
theorem Link.append (h : Link send agree sender receiver items wire)
    (hmore : sendAll send more sender = .ok (bytes, sender')) :
    Link send agree sender' receiver (items ++ more) (wire ++ bytes) := by
  obtain ⟨s, hagree, hsent⟩ := h
  exact ⟨s, hagree, sendAll_append hsent hmore⟩

/-- The receiver does something that agreement does not depend on. -/
theorem Link.of_receiver (h : Link send agree sender receiver items wire)
    (hreceiver : ∀ s, agree s receiver → agree s receiver') :
    Link send agree sender receiver' items wire := by
  obtain ⟨s, hagree, hsent⟩ := h
  exact ⟨s, hreceiver s hagree, hsent⟩

/-- What the receiver is to read next, and what is on the way once it has read it. -/
theorem Link.next (h : Link send agree sender receiver (item :: items) wire) :
    ∃ s bytes s' rest, agree s receiver ∧ send item s = .ok (bytes, s') ∧ wire = bytes ++ rest ∧
      ∀ receiver', agree s' receiver' → Link send agree sender receiver' items rest := by
  obtain ⟨s, hagree, hsent⟩ := h
  obtain ⟨bytes, middle, rest, hitem, hitems, rfl⟩ := sendAll_cons_ok.mp hsent
  exact ⟨s, bytes, middle, rest, hagree, hitem, rfl, fun receiver' hr => ⟨middle, hr, hitems⟩⟩

end Links

end Lib
