import HealthProbe.Go.Utf8
import HealthProbe.Go.Strings
import HealthProbe.Go.Strconv
import HealthProbe.Types
import HealthProbe.Consts
import HealthProbe.Provider.Builder
import HealthProbe.Provider.Stages
import HealthProbe.Provider.Agreement
import HealthProbe.Provider.TotalProbe
import HealthProbe.Provider.ProbePort
import HealthProbe.Provider.Precedence
import HealthProbe.Provider.FindProbe
import HealthProbe.Provider.Outcome
import HealthProbe.Provider.Reads
import HealthProbe.Provider.RoundTrip
