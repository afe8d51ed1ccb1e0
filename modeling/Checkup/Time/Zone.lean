/-!
# Zones

The clocks of a region are ahead of universal time by some time that depends on the instant: where
they are set forward in spring and back in autumn, it changes twice a year.
-/

namespace Checkup

/-- How many microseconds the clocks of a region are ahead of universal time. Instants are
microseconds since the start of the year 1 in universal time. -/
abbrev Zone := Int → Int

namespace Zone

def fixed (offset : Int) : Zone := fun _ => offset

/-- What the clocks of the region show at an instant. -/
def shown (zone : Zone) (instant : Int) : Int := instant + zone instant

end Zone

end Checkup
