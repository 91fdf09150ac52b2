import ErrorOrigins.CommandLine.Page
import ErrorOrigins.Run

namespace ErrorOrigins

-- Options without a value.
inductive Flag
  | diagnostics
  | parallel
  deriving DecidableEq, Repr, Inhabited

-- Options with a value.
inductive Setting
  | color
  | exclude
  deriving DecidableEq, Repr, Inhabited

-- What an argument says by itself.
inductive Argument
  | plain (text : String)
  | endOfOptions
  | flag (flag : Flag)
  | setting (setting : Setting) (value : Option String)
  | page (page : Page)
  | unknown
  deriving DecidableEq, Repr, Inhabited

namespace Argument

-- An option by its name, with the value that an equals sign attaches.
def ofLong (name : String) (value : Option String) : Argument :=
  match name, value with
  | "color", value        => .setting .color value
  | "exclude", value      => .setting .exclude value
  | "diagnostics", none   => .flag .diagnostics
  | "parallel", none      => .flag .parallel
  | "help", none          => .page .help
  | "version", none       => .page .version
  | _, _                  => .unknown

-- An option by its letter, with what follows the letter. A page is shown whatever follows.
def ofShort (letter : Char) (rest : List Char) : Argument :=
  match letter, rest with
  | 'h', _            => .page .summary
  | 'V', _            => .page .version
  | 'e', []           => .setting .exclude none
  | 'e', '=' :: value => .setting .exclude (some (String.ofList value))
  | 'e', value        => .setting .exclude (some (String.ofList value))
  | _, _              => .unknown

def ofText (text : String) : Argument :=
  match text.toList with
  | ['-', '-']         => .endOfOptions
  | '-' :: '-' :: long =>
    let name := String.ofList (long.takeWhile (· ≠ '='))
    match long.dropWhile (· ≠ '=') with
    | []         => ofLong name none
    | _ :: value => ofLong name (some (String.ofList value))
  | '-' :: c :: rest   => ofShort c rest
  | _                  => .plain text

end Argument

namespace Options

def addTargets (o : Options) (targets : List String) : Options :=
  { o with targets := o.targets ++ targets }

-- A flag may be given once.
def raise? (o : Options) : Flag → Option Options
  | .diagnostics => if o.diagnostics then none else some { o with diagnostics := true }
  | .parallel    => if o.parallel then none else some { o with parallel := true }

-- A color may be given once, patterns as often as one likes.
def set? (o : Options) (setting : Setting) (value : String) : Option Options :=
  match setting with
  | .exclude => some { o with exclude := o.exclude ++ [value] }
  | .color   =>
    match o.color, ColorMode.ofText? value with
    | none, some mode => some { o with color := some mode }
    | _, _            => none

end Options

-- What a command line asks for.
inductive Request
  | run (options : Options)
  | display (page : Page)
  deriving DecidableEq, Repr, Inhabited

namespace Request

-- Reads arguments from left to right. A setting without a value takes the next argument, which must not look
-- like an option. The first page that is met is shown, if all is well before it.
def read? (o : Options) (awaited : Option Setting) : List String → Option Request
  | []           => if awaited.isSome then none else some (.run o)
  | text :: rest =>
    match awaited, Argument.ofText text with
    | some setting, .plain value        => (o.set? setting value).bind (read? · none rest)
    | some _, _                         => none
    | none, .plain target               => read? (o.addTargets [target]) none rest
    | none, .endOfOptions               => some (.run (o.addTargets rest))
    | none, .flag flag                  => (o.raise? flag).bind (read? · none rest)
    | none, .setting setting none       => read? o (some setting) rest
    | none, .setting setting (some val) => (o.set? setting val).bind (read? · none rest)
    | none, .page page                  => some (.display page)
    | none, .unknown                    => none

-- What arguments ask for, if they are well formed.
def ofArguments? (args : List String) : Option Request :=
  read? {} none args

end Request
end ErrorOrigins
