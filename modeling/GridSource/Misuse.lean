/-!
# Misuse

A caller can hand a value to an operation that has no meaning for it: a number
where a list of names is expected, an object as the key of an object.  These
are the causes.  They are not failures of a query, a response or a request;
those have reports of their own.
-/

namespace GridSource

inductive Misuse where
  /-- Elements are asked of a value that has none. -/
  | notIterable
  /-- A list or an object is used as a key. -/
  | notHashable
  /-- An argument is missing, unknown or of a kind the operation cannot take. -/
  | wrongArgument
  /-- A sequence has another number of elements than the operation unpacks. -/
  | wrongLength
  /-- The value has no operation of the requested name. -/
  | lacksOperation
  /-- The key is absent. -/
  | absentKey
  /-- A number is too large for what it is converted to. -/
  | outOfRange
  /-- An element is asked of an empty sequence. -/
  | noElement
  /-- A text holds characters its place cannot carry. -/
  | notEncodable
  /-- The value is of the right kind but cannot be accepted; the text says why
  where the library words the reason itself. -/
  | unacceptable (reason : Option String)
deriving Repr, DecidableEq, Inhabited

end GridSource
