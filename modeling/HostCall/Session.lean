import HostCall.Pass

/-!
A session: a generator together with parameters and functions to try it on. Each step is answered
from the session's state; what a strategy or a wrapper changes in a parameter or a function stays
changed.
-/
namespace HostCall

structure Session where
  generator : Generator
  params : List Param := []
  functions : List HostFunction := []
  /-- The policy of a pass for which none is stated. -/
  policy : Policy := .skip

inductive Choice where
  | given (s : Strategy)
  | chosen
  deriving DecidableEq, Repr

inductive Step where
  | mark (type : String)
  | needs (type : String)
  | get (type : String)
  | count
  | stage (type : String)
  | isStaged (type : String)
  | commit
  | discard
  | marshalInList
  | configure (settings : Settings)
  | returnStatement (value : String)
  | isExcluded (type : String)
  | resetWarning
  | strategy (function : String) (param : Nat)
  | plan
  | renamed (param : Nat) (function : Signature) (choice : Choice)
  | declare (param : Nat) (function : Signature) (choice : Choice)
  | publish (param : Nat) (function : Signature) (choice : Choice)
  | emit (function : Nat)
  | show (function : Nat)
  | generate (policy : Option Policy)
  deriving DecidableEq, Repr

inductive Answer where
  | nothing
  | flag (value : Bool)
  | text (value : String)
  /-- A registered type, and whether it is flagged. -/
  | type (entry : Option (TypeEntry × Bool))
  | count (size : Nat)
  | strategy (s : Strategy)
  | plan (entries : List PlanEntry)
  | renamed (s : Strategy) (name : Option String)
  /-- The text that a strategy adds, and the parameter after it. -/
  | hook (s : Strategy) (result : Except Unsupported String) (param : Param)
  | wrapper (result : Except Unsupported String) (params : List Param)
  | function (f : HostFunction)
  | thunks (result : Except Unsupported Thunks)

structure Reply where
  session : Session
  answer : Answer
  events : List Event := []

namespace Session

def choose (s : Session) (function : Signature) (p : Param) : Choice → Strategy
  | .given strategy => strategy
  | .chosen => s.generator.catalog.strategy function.name p

/-- Answers without changing anything. -/
def answer (s : Session) (a : Answer) : Reply := { session := s, answer := a }

def withGenerator (s : Session) (g : Generator) : Session := { s with generator := g }

def declare (s : Session) (index : Nat) (p : Param) (function : Signature) (choice : Choice) : Reply :=
  let strategy := s.choose function p choice
  let d := s.generator.declare strategy function p
  let s := s.withGenerator d.generator
  match d.result with
  | .error fault => { session := s, answer := .hook strategy (.error fault) p, events := d.events }
  | .ok declared =>
    { session := { s with params := s.params.set index declared.param }
      answer := .hook strategy (.ok declared.text) declared.param
      events := d.events }

def publish (s : Session) (p : Param) (function : Signature) (choice : Choice) : Reply :=
  let strategy := s.choose function p choice
  let text := strategy.publish s.generator.settings function.callStatus p
  s.answer (.hook strategy (.ok text) p)

def renamed (s : Session) (p : Param) (function : Signature) (choice : Choice) : Reply :=
  let strategy := s.choose function p choice
  s.answer (.renamed strategy (strategy.renamed? s.generator.settings p))

def emit (s : Session) (index : Nat) (f : HostFunction) : Reply :=
  let e := s.generator.emit f
  { session := { s with generator := e.generator, functions := s.functions.set index e.function }
    answer := .wrapper e.result e.function.params
    events := e.events }

def generate (s : Session) (policy : Option Policy) : Reply :=
  let r := s.generator.generate (policy.getD s.policy) s.functions
  { session := s.withGenerator r.generator, answer := .thunks r.result, events := r.events }

def lookUp (g : Generator) (type : String) : Option (TypeEntry × Bool) :=
  (g.catalog.category? type).map fun category => (⟨type, category⟩, decide (type ∈ g.flagged))

/-- Takes one step; there is no answer to a step that names what the session does not have. -/
def step (s : Session) : Step → Option Reply
  | .mark type =>
    let (g, known) := s.generator.mark type
    some { session := s.withGenerator g, answer := .flag known }
  | .needs type => some (s.answer (.flag (decide (type ∈ s.generator.flagged))))
  | .get type => some (s.answer (.type (lookUp s.generator type)))
  | .count => some (s.answer (.count s.generator.catalog.names.size))
  | .stage type => some { session := s.withGenerator (s.generator.stage type), answer := .nothing }
  | .isStaged type => some (s.answer (.flag (decide (type ∈ s.generator.staged))))
  | .commit =>
    let (g, events) := s.generator.commit
    some { session := s.withGenerator g, answer := .nothing, events }
  | .discard => some { session := s.withGenerator s.generator.discard, answer := .nothing }
  | .marshalInList => some (s.answer (.text s.generator.marshalInList))
  | .configure settings =>
    some { session := s.withGenerator { s.generator with settings }, answer := .nothing }
  | .returnStatement value => some (s.answer (.text (s.generator.settings.returnStatement value)))
  | .isExcluded type => some (s.answer (.flag (s.generator.catalog.isExcluded type)))
  | .resetWarning =>
    some { session := s.withGenerator { s.generator with warned := false }, answer := .nothing }
  | .strategy function index =>
    s.params[index]?.map fun p => s.answer (.strategy (s.generator.catalog.strategy function p))
  | .plan => some (s.answer (.plan (s.generator.catalog.plan s.functions)))
  | .renamed index function choice => s.params[index]?.map fun p => s.renamed p function choice
  | .declare index function choice => s.params[index]?.map fun p => s.declare index p function choice
  | .publish index function choice => s.params[index]?.map fun p => s.publish p function choice
  | .emit index => s.functions[index]?.map fun f => s.emit index f
  | .show index => s.functions[index]?.map fun f => s.answer (.function f)
  | .generate policy => some (s.generate policy)

end Session

end HostCall
