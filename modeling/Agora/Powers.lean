/-!
Powers of numbers. They are those of the core library wherever they are written, whatever other
powers are in scope, so that a bound means the same in every module and computes.
-/

set_option autoImplicit false

attribute [instance (2000), default_instance 20000] instPowNat
