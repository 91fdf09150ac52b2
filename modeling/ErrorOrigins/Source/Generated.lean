namespace ErrorOrigins.Generated

-- The bytes of a text that has ASCII characters only.
def asciiBytes (s : String) : List UInt8 :=
  s.toList.map fun c => c.toNat.toUInt8

def header : List UInt8 :=
  asciiBytes "// Code generated "

def footer : List UInt8 :=
  asciiBytes " DO NOT EDIT."

def newline : UInt8 := 0x0a

def carriageReturn : UInt8 := 0x0d

-- A line without the carriage return at its end.
def trimReturn (line : List UInt8) : List UInt8 :=
  if line.getLast? = some carriageReturn then line.dropLast else line

-- Header and footer may not share a byte.
def isMarker (line : List UInt8) : Bool :=
  header.length + footer.length ≤ line.length && header.isPrefixOf line && footer.isSuffixOf line

def isPackageLine (line : List UInt8) : Bool :=
  (asciiBytes "package ").isPrefixOf line || line == asciiBytes "package"

-- Some line before the package clause is a marker.
def isGenerated (source : List UInt8) : Bool :=
  let line := trimReturn (source.takeWhile (· != newline))
  if isMarker line then true
  else if isPackageLine line then false
  else match h : source.dropWhile (· != newline) with
    | []        => false
    | _ :: rest =>
      have : rest.length < source.length := by
        have := (source.dropWhile_sublist (· != newline)).length_le
        rw [h] at this
        exact this
      isGenerated rest
termination_by source.length

end ErrorOrigins.Generated
