import IdScan.Framework.LTS
import IdScan.Framework.Text
import IdScan.Framework.CsvDict
import IdScan.Framework.Registry
import IdScan.Framework.PathText
import IdScan.Model.Read
import IdScan.Model.ReadImproved
import IdScan.Model.System
import IdScan.Proofs.Uninterrupted
import IdScan.Proofs.Store
import IdScan.Proofs.TableMirror
import IdScan.Proofs.Marking
import IdScan.Proofs.TwoReaders
import IdScan.Proofs.DerivedTexts
import IdScan.Proofs.AddressAdmin
import IdScan.Proofs.NameText
import IdScan.Proofs.RecordCount
import IdScan.Proofs.ImportMerge
import IdScan.Proofs.Photo
import IdScan.Proofs.OutputFiles
import IdScan.Proofs.NameLayout
import IdScan.Proofs.AddressGaps
import IdScan.Proofs.Closing
import IdScan.Proofs.StatusLine
import IdScan.Proofs.History
import IdScan.Proofs.CommandLine
import IdScan.Proofs.Stations
import IdScan.Proofs.ReadOnly
import IdScan.Proofs.PersonFile
import IdScan.Proofs.Recording
import IdScan.Proofs.TextOrder
