/-
Whether output has styles.

Two questions are asked. The environment may ask for styles or forbid them, and without a word
from it they go to terminals only. Results and passages are more careful: they have styles only
on a terminal, whatever the environment asks for.
-/
import ShardSearch.Style

namespace ShardSearch

/-- What the environment says about styles: the values of three variables, where they are set,
and whether the output goes to a terminal. -/
structure Environment where
  /-- The value of `NO_COLOR`. -/
  noColor : Option String
  /-- The value of `CLICOLOR`. -/
  color : Option String
  /-- The value of `CLICOLOR_FORCE`. -/
  forceColor : Option String
  isTerminal : Bool
deriving DecidableEq, Repr

/-- Where output goes. -/
structure Display where
  /-- Whether styles are asked for. -/
  isStyled : Bool
  /-- Whether results may have styles. -/
  isRich : Bool
deriving DecidableEq, Repr

namespace Display

/-- Whether a variable is set to something but zero. -/
def isOn (value : Option String) : Bool := value.any (· ≠ "0")

/-- Whether an environment asks for styles: force wins over refusal, and refusal over the rest. -/
def asksForStyles (env : Environment) : Bool :=
  if isOn env.forceColor then true
  else if env.noColor.isSome then false
  else (env.color.isNone || isOn env.color) && env.isTerminal

/-- The display of an environment. -/
def ofEnvironment (env : Environment) : Display :=
  ⟨asksForStyles env, env.noColor.isNone && env.isTerminal⟩

/-- Whether results and passages have styles. -/
def stylesResults (d : Display) : Bool := d.isStyled && d.isRich

end Display

end ShardSearch
