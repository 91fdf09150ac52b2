import ErrorOrigins.Go.Tree

namespace ErrorOrigins.Go.Tree

-- One of the parts is a type that is no more than a name.
def hasPlainType (children : List Tree) : Bool :=
  children.any fun c => c.role == some "type" && c.kind == "type_identifier"

-- What a node adds to the weight of a reading. Type arguments speak for it, and types that stand by themselves
-- speak against it, as do conversions and instances. A name that type arguments or a literal follow, or that a
-- package is named for, does not stand by itself.
def ownWeight (kind : String) (children : List Tree) : Int :=
  match kind with
  | "type_identifier"               => -1
  | "qualified_type"                => 1
  | "generic_type"                  => if hasPlainType children then 2 else 1
  | "composite_literal"             => if hasPlainType children then 1 else 0
  | "type_arguments"                => 2
  | "type_conversion_expression"    => -1
  | "type_instantiation_expression" => -1
  | _                               => 0

mutual

def weight : Tree → Int
  | node kind _ _ children => ownWeight kind children + weights children

def weights : List Tree → Int
  | []        => 0
  | t :: rest => weight t + weights rest

end

-- The weightiest of some readings, of equal ones the first.
def weightiest? : List Tree → Option Tree
  | []        => none
  | t :: rest =>
    match weightiest? rest with
    | none   => some t
    | some u => if weight u > weight t then some u else some t

end ErrorOrigins.Go.Tree
