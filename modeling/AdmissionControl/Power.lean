/-!
# Powers

A power of natural numbers is the core library's in every module, whatever other instances of `Pow`
a module sees.
-/

attribute [instance (high), default_instance (high + 1)] instPowNat
