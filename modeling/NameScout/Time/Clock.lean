import NameScout.Time.Instant

namespace NameScout

class Clock (σ : Type) where
  now : σ → Instant

end NameScout
