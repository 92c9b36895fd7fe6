/-!
# The text of a length of time

A length of time in whole milliseconds is written in seconds from one second on, with at most three
decimals and no trailing zero, in milliseconds below that, and as `0ns` when it is nothing at all.
-/

namespace FlowBurst.Text

/-- The decimals of a number of thousandths, without trailing zeros: nothing for no thousandth. -/
def thousandths (n : Nat) : String :=
  if n % 1000 = 0 then ""
  else if n % 100 = 0 then "." ++ toString (n / 100)
  else if n % 10 = 0 then "." ++ toString (n / 100) ++ toString (n / 10 % 10)
  else "." ++ toString (n / 100) ++ toString (n / 10 % 10) ++ toString (n % 10)

/-- The text of a length of time given in milliseconds. -/
def duration (milliseconds : Nat) : String :=
  if milliseconds = 0 then "0ns"
  else if milliseconds < 1000 then toString milliseconds ++ "ms"
  else toString (milliseconds / 1000) ++ thousandths (milliseconds % 1000) ++ "s"

end FlowBurst.Text
