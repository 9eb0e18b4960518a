/-! # Parser actions

An action shifts to a state, reduces by the production with a given number, or accepts. The numbers
may be any integers: a table does not have to fit a grammar.
-/
namespace CanonicalLR

inductive Action where
  | shift (target : Int)
  | reduce (production : Int)
  | accept
deriving DecidableEq

namespace Action

def text : Action → String
  | shift target => s!"shift {target}"
  | reduce production => s!"reduce {production}"
  | accept => "accept"

def code : Action → String
  | shift target => s!"s{target}"
  | reduce production => s!"r{production}"
  | accept => "acc"

end Action

end CanonicalLR
