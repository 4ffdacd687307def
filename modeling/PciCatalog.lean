import PciCatalog.Text.CharClass
import PciCatalog.Text.Split
import PciCatalog.Text.Lowercase
import PciCatalog.Text.Quoted
import PciCatalog.Text.Utf8
import PciCatalog.Number.Binary64
import PciCatalog.Number.Decimal
import PciCatalog.Number.Numeral
import PciCatalog.Entry.Line
import PciCatalog.Database
import PciCatalog.Device.Metrics
import PciCatalog.Gpu
import PciCatalog.Files.Reading
import PciCatalog.Files.Edit
import PciCatalog.Database.Loading
import PciCatalog.Sysfs
import PciCatalog.Database.Default
import PciCatalog.Settings
import PciCatalog.Yaml.Token
import PciCatalog.Yaml.Document
import PciCatalog.Settings.Loading
import PciCatalog.Command.Run
import PciCatalog.Command.Standard
import PciCatalog.Main
import PciCatalog.Proofs.Splitting
import PciCatalog.Proofs.Candidate
import PciCatalog.Proofs.Step
import PciCatalog.Proofs.LookBack
import PciCatalog.Proofs.LastEntry
import PciCatalog.Proofs.Integrity
import PciCatalog.Proofs.Encoding
import PciCatalog.Proofs.CutLines
import PciCatalog.Proofs.DecodedLines
import PciCatalog.Proofs.FileLines
import PciCatalog.Proofs.Spelling
import PciCatalog.Proofs.Catalog
import PciCatalog.Proofs.WrittenLine
import PciCatalog.Proofs.RoundTrip
import PciCatalog.Proofs.Writer
import PciCatalog.Proofs.Extensionality
import PciCatalog.Proofs.Blocks
import PciCatalog.Proofs.Rearrangement
import PciCatalog.Proofs.NumberText
import PciCatalog.Proofs.AddressForm
import PciCatalog.Proofs.NamedLines
import PciCatalog.Proofs.DeviceNames
import PciCatalog.Proofs.PathText
import PciCatalog.Proofs.Walking
import PciCatalog.Proofs.Result
import PciCatalog.Proofs.FileAccess
import PciCatalog.Proofs.Attributes
import PciCatalog.Proofs.OneDevice
import PciCatalog.Proofs.JsonText
import PciCatalog.Proofs.Requests
import PciCatalog.Proofs.DeviceReports
import PciCatalog.Proofs.LowerCase
import PciCatalog.Proofs.NormalForm
import PciCatalog.Proofs.OwnKeys
import PciCatalog.Proofs.DeviceScope
import PciCatalog.Proofs.NumberReading
import PciCatalog.Proofs.GpuReports
import PciCatalog.Proofs.Opening
import PciCatalog.Proofs.SettingsFaults
import PciCatalog.Proofs.Quantities
import PciCatalog.Proofs.Escapes
import PciCatalog.Proofs.NamesFile
import PciCatalog.Proofs.Snapshot
import PciCatalog.Proofs.JsonGrammar
import PciCatalog.Proofs.OutsideQuotes
import PciCatalog.Proofs.JsonReports
import PciCatalog.Proofs.PathReading
import PciCatalog.Proofs.Elsewhere
import PciCatalog.Proofs.Nameless
import PciCatalog.Proofs.AddressGrammar
import PciCatalog.Proofs.PassedOver
import PciCatalog.Proofs.SettingsReading
import PciCatalog.Proofs.WrittenNumber
import PciCatalog.Proofs.WrittenSettings
import PciCatalog.Proofs.AddressNumbers
import PciCatalog.Proofs.ListingOrder
import PciCatalog.Proofs.DeviceLocations
import PciCatalog.Proofs.GpuNames
import PciCatalog.Proofs.NameBytes
import PciCatalog.Proofs.EqualTables
import PciCatalog.Proofs.RefusedLines
import PciCatalog.Proofs.SilentLines
import PciCatalog.Proofs.ReadBack
import PciCatalog.Proofs.Rediscovery
import PciCatalog.Proofs.NearestDouble
import PciCatalog.Proofs.ReadMetrics
import PciCatalog.Proofs.DistinctRecords
