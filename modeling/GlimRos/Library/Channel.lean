import GlimRos.Library.Transition
import Mathlib.Data.List.Basic

/-!
# First-in first-out channels

The abstract meaning of a chain of buffers between a producer and a consumer:
items are sent at one end and received at the other, in order and once each.
A channel carries the proof that what was received followed by what is still
in transit is what was sent, so no run can lose, duplicate or reorder items.
-/

universe u

/-- A first-in first-out channel with its whole history. -/
@[ext]
structure Channel (Item : Type u) where
  sent : List Item
  received : List Item
  inTransit : List Item
  accounted : received ++ inTransit = sent

namespace Channel

variable {Item : Type u}

def empty : Channel Item :=
  { sent := []
    received := []
    inTransit := []
    accounted := rfl }

/-- The producer puts an item behind all items in transit. -/
@[simps]
def send (channel : Channel Item) (item : Item) : Channel Item :=
  { sent := channel.sent ++ [item]
    received := channel.received
    inTransit := channel.inTransit ++ [item]
    accounted := by rw [← List.append_assoc, channel.accounted] }

/-- The consumer takes the oldest item in transit. -/
@[simps]
def receive (channel : Channel Item) (item : Item) (rest : List Item)
    (oldest : channel.inTransit = item :: rest) : Channel Item :=
  { sent := channel.sent
    received := channel.received ++ [item]
    inTransit := rest
    accounted := by rw [← channel.accounted, oldest]; simp }

/-- One action of the producer or of the consumer. -/
inductive Step : Channel Item → Channel Item → Prop where
  | send (channel : Channel Item) (item : Item) :
      Step channel (channel.send item)
  | receive (channel : Channel Item) (item : Item) (rest : List Item)
      (oldest : channel.inTransit = item :: rest) :
      Step channel (channel.receive item rest oldest)

def system : Transition.System (Channel Item) :=
  { Init := fun channel => channel = empty
    Step := Step }

/-- A channel described by its three lists. -/
structure Carries (sent received inTransit : List Item)
    (channel : Channel Item) : Prop where
  sent : channel.sent = sent
  received : channel.received = received
  inTransit : channel.inTransit = inTransit

theorem Carries.accounted
    {sent received inTransit : List Item} {channel : Channel Item}
    (carries : Carries sent received inTransit channel) :
    received ++ inTransit = sent := by
  rw [← carries.sent, ← carries.received, ← carries.inTransit]
  exact channel.accounted

/-- Nothing in transit means that everything has arrived. -/
theorem Carries.complete
    {sent received inTransit : List Item} {channel : Channel Item}
    (carries : Carries sent received inTransit channel)
    (nothing : inTransit = []) : received = sent := by
  rw [← carries.accounted, nothing, List.append_nil]

/-- Changing how the lists are written does not move the channel. -/
theorem Carries.stutter
    {sent received inTransit sent' received' inTransit' : List Item}
    {channel : Channel Item}
    (carries : Carries sent received inTransit channel)
    (sameSent : sent' = sent) (sameReceived : received' = received)
    (sameTransit : inTransit' = inTransit) :
    ∃ later, system.Steps channel later ∧
      Carries sent' received' inTransit' later := by
  subst sameSent sameReceived sameTransit
  exact ⟨channel, .refl system channel, carries⟩

theorem Carries.sends
    {sent received inTransit sent' received' inTransit' : List Item}
    {channel : Channel Item}
    (carries : Carries sent received inTransit channel) (item : Item)
    (newSent : sent' = sent ++ [item]) (sameReceived : received' = received)
    (newTransit : inTransit' = inTransit ++ [item]) :
    ∃ later, system.Steps channel later ∧
      Carries sent' received' inTransit' later := by
  subst newSent sameReceived newTransit
  refine ⟨channel.send item, .single (.send channel item), ?_, ?_, ?_⟩
  · simp [carries.sent]
  · simp [carries.received]
  · simp [carries.inTransit]

theorem Carries.receives
    {sent received inTransit sent' received' inTransit' : List Item}
    {channel : Channel Item}
    (carries : Carries sent received inTransit channel) (item : Item)
    (sameSent : sent' = sent) (newReceived : received' = received ++ [item])
    (oldest : inTransit = item :: inTransit') :
    ∃ later, system.Steps channel later ∧
      Carries sent' received' inTransit' later := by
  subst sameSent newReceived
  have head : channel.inTransit = item :: inTransit' :=
    carries.inTransit.trans oldest
  refine ⟨channel.receive item inTransit' head,
    .single (.receive channel item inTransit' head), ?_, ?_, ?_⟩
  · simp [carries.sent]
  · simp [carries.received]
  · simp

end Channel
