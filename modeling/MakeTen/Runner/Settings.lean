import MakeTen.Play.Judge
/-!
# Runner settings

What has to be known to have code judged by a program.
-/

namespace MakeTen

/-- How a program is used as a judge. -/
structure RunnerSettings where
  program : String
  /-- Its arguments, with marks for what changes from run to run. -/
  arguments : List String
  address : String
  /-- Call data in hexadecimal. -/
  callData : String
  gasLimit : Nat
  /-- Words in the program's output that mean that the run was reverted. -/
  failureMarkers : List String
  deriving Repr, DecidableEq

namespace RunnerSettings

/-- The account used when nothing else is asked for. -/
def usualAddress : String :=
  "0x" ++ String.ofList (List.replicate 40 'f')

/-- Marks in arguments. -/
def codeMark : String := "\x7bcode\x7d"

/-- Mark of the call data. -/
def callDataMark : String := "\x7bcalldata\x7d"

/-- Mark of the gas limit. -/
def gasMark : String := "\x7bgas\x7d"

/-- Mark of the account. -/
def addressMark : String := "\x7baddress\x7d"

/-- The settings for the runner of geth. -/
def usual : RunnerSettings where
  program := "evm"
  arguments :=
    ["--code", codeMark, "--input", callDataMark, "--gas", gasMark, "--receiver", addressMark,
      "run"]
  address := usualAddress
  callData := defaultCallData
  gasLimit := 1000000
  failureMarkers := ["error", "revert"]

end RunnerSettings
end MakeTen
