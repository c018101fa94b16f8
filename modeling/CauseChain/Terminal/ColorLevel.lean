import CauseChain.Text.Shape
import CauseChain.Text.Numeral

/-!
# Color levels

How many colors a stream can show, judged from the environment: a refusal first, then a depth
that is forced, then what the terminal says of itself, and last whether a build service is at
work. Variables are read through a function, so that nothing else of the environment can matter.
-/

set_option autoImplicit false

namespace CauseChain

/-- Reads a variable as text. -/
abbrev Variables := String → Option String

namespace Variables

def present (env : Variables) (name : String) : Bool := (env name).isSome

def value (env : Variables) (name : String) : String := (env name).getD ""

def differs (env : Variables) (name text : String) : Bool :=
  match env name with
  | some v => v != text
  | none => false

end Variables

def endsIn (s tail : String) : Bool := tail.toList.isSuffixOf s.toList

namespace BuildService

def marks : List String := [
  "CI_NAME", "GITHUB_ACTION", "GITLAB_CI", "NETLIFY", "TRAVIS", "CODEBUILD_SRC_DIR",
  "BUILDER_OUTPUT", "GITLAB_DEPLOYMENT", "NOW_GITHUB_DEPLOYMENT", "NOW_BUILDER",
  "BITBUCKET_DEPLOYMENT", "GERRIT_PROJECT", "SYSTEM_TEAMFOUNDATIONCOLLECTIONURI", "BITRISE_IO",
  "BUDDY_WORKSPACE_ID", "BUILDKITE", "CIRRUS_CI", "APPVEYOR", "CIRCLECI", "SEMAPHORE", "DRONE",
  "DSARI", "TDDIUM", "STRIDER", "TASKCLUSTER_ROOT_URL", "JENKINS_URL", "bamboo.buildKey",
  "GO_PIPELINE_NAME", "HUDSON_URL", "MAGNUM", "NEVERCODE", "RENDER", "SAIL_CI", "SHIPPABLE"]

/-- The values of `CI` that admit a build service. -/
def admissions : List String := ["true", "1", "woodpecker"]

def detected (env : Variables) : Bool :=
  ((env "CI").any fun v => admissions.contains v)
    || ((env "NODE").any fun v => endsIn v "/.heroku/node/bin/node")
    || marks.any env.present

end BuildService

/-- How many colors a stream shows; every level includes the ones below it. -/
structure ColorLevel where
  basic : Bool := false
  ansi256 : Bool := false
  truecolor : Bool := false
  deriving DecidableEq, Repr

namespace ColorLevel

/-- The level of a depth from zero to three. -/
def ofDepth (depth : Nat) : ColorLevel :=
  { basic := decide (1 ≤ depth), ansi256 := decide (2 ≤ depth), truecolor := decide (3 ≤ depth) }

def none : ColorLevel := ofDepth 0

def shape {ε : Type} (l : ColorLevel) : Shape ε :=
  .record "ColorLevel" [
    ("basic", .atom (toString l.basic)),
    ("ansi256", .atom (toString l.ansi256)),
    ("truecolor", .atom (toString l.truecolor))]

/-- The depth that a value of `FORCE_COLOR` asks for: one if it is empty or no number of 32 bits,
and three at most. -/
def depthOf (value : String) : Nat :=
  if value = "" then 1
  else if value = "false" then 0
  else match Numeral.unsigned (UInt32.size - 1) value with
    | .ok n => min n 3
    | .error _ => 1

/-- The depth that the environment forces, zero if none; `CLICOLOR_FORCE` is heard only where
`FORCE_COLOR` is absent. -/
def demandedDepth (env : Variables) : Nat :=
  match env "FORCE_COLOR" with
  | some value => depthOf value
  | Option.none => if env.differs "CLICOLOR_FORCE" "0" then 1 else 0

/-- Whether a terminal that says this of itself mixes colors freely. -/
def mixesColors (env : Variables) : Bool :=
  env.value "COLORTERM" == "truecolor" || env.value "COLORTERM" == "24bit"
    || endsIn (env.value "TERM") "direct" || endsIn (env.value "TERM") "truecolor"
    || env.value "TERM_PROGRAM" == "iTerm.app"

/-- Whether a terminal that says this of itself has a palette of 256 colors. -/
def hasPalette (env : Variables) : Bool :=
  env.value "TERM_PROGRAM" == "Apple_Terminal"
    || endsIn (env.value "TERM") "256" || endsIn (env.value "TERM") "256color"

def hasColors (env : Variables) : Bool :=
  env.present "TERM" || env.differs "CLICOLOR" "0" || BuildService.detected env

/-- The depth of a terminal that nothing is forced on. -/
def terminalDepth (env : Variables) : Nat :=
  if mixesColors env then 3 else if hasPalette env then 2 else if hasColors env then 1 else 0

def ofStream (env : Variables) (isTerminal : Bool) : ColorLevel :=
  if env.differs "NO_COLOR" "" then none
  else if 0 < demandedDepth env then ofDepth (demandedDepth env)
  else if env.value "TERM" == "dumb" || !isTerminal then none
  else ofDepth (terminalDepth env)

end ColorLevel

end CauseChain
