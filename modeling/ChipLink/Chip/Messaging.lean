import ChipLink.Chip.Basic

/-!
# Messages to the core of a chip

A Grayskull has one mailbox; a message for its second mailbox is refused without
any call.
-/

namespace ChipLink.Chip

/-- Sends a message to the management core. -/
def message (chip : Chip) (options : MessageOptions) (rounds : Nat) : Attempt MessageReply :=
  match chip, options.mailbox with
  | .grayskull, .second => .protocolError (.invalidMailbox 2)
  | _, _ => Mailbox.exchange chip.route options rounds

end ChipLink.Chip
