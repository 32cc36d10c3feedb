/-!
# Powers

A power with a natural exponent is the one of the core library, whatever else a module imports.
-/
attribute [instance (20000), default_instance 20000] instPowNat
