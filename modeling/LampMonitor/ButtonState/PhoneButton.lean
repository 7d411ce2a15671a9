import Mathlib.Data.List.Nodup

/-! Buttons of a deskphone. The on flag is the only mutable field; it is read and
exchanged atomically, so a rendering may see it change between two reads. -/
namespace LampMonitor.ButtonState

inductive Color where
  | red
  | green
  | blue
  deriving DecidableEq, Repr

inductive FlashMode where
  | off
  | slow
  | fast
  deriving DecidableEq, Repr

structure PhoneButton where
  buttonId : UInt16
  color : Color
  flashMode : FlashMode
  criticalWhenOn : Bool
  criticalWhenOff : Bool
  buttonOn : Bool
  deriving DecidableEq, Repr

namespace PhoneButton

def isOn (button : PhoneButton) : Bool := button.buttonOn

def isCritical (button : PhoneButton) : Bool :=
  if button.buttonOn then button.criticalWhenOn else button.criticalWhenOff

/-- The store of `button_on_.exchange(on)`. -/
def exchange (button : PhoneButton) (on : Bool) : PhoneButton := { button with buttonOn := on }

@[simp] theorem exchange_buttonId (button : PhoneButton) (on : Bool) :
    (button.exchange on).buttonId = button.buttonId := rfl

@[simp] theorem exchange_isOn (button : PhoneButton) (on : Bool) : (button.exchange on).isOn = on :=
  rfl

theorem exchange_isOn_self (button : PhoneButton) : button.exchange button.isOn = button := rfl

end PhoneButton
end LampMonitor.ButtonState
