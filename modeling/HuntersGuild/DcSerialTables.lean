import Mathlib.Data.List.Basic

/-!
The primes that serial numbers are products of: one of the first table, one of the second and
one of the third. The rows are those of the source.
-/

namespace HuntersGuild.DcSerialTables

def primes1 : List Nat := [
  [0x65, 0x67, 0x6B, 0x6D, 0x71, 0x7F, 0x83, 0x89, 0x8B, 0x95, 0x97, 0x9D, 0xA3, 0xA7, 0xAD, 0xB3, 0xB5, 0xBF, 0xC1],
  [0xC5, 0xC7, 0xD3, 0xDF, 0xE3, 0xE5, 0xE9, 0xEF, 0xF1, 0xFB, 0x101, 0x107, 0x10D, 0x10F, 0x115, 0x119, 0x11B, 0x125],
  [0x133, 0x137, 0x139, 0x13D, 0x14B, 0x151, 0x15B, 0x15D, 0x161, 0x167, 0x16F, 0x175, 0x17B, 0x17F, 0x185, 0x18D],
  [0x191, 0x199, 0x1A3, 0x1A5, 0x1AF, 0x1B1, 0x1B7, 0x1BB, 0x1C1, 0x1C9, 0x1CD, 0x1CF, 0x1D3, 0x1DF, 0x1E7, 0x1EB],
  [0x1F3, 0x1F7, 0x1FD, 0x209, 0x20B, 0x21D, 0x223, 0x22D, 0x233, 0x239, 0x23B, 0x241, 0x24B, 0x251, 0x257, 0x259],
  [0x25F, 0x265, 0x269, 0x26B, 0x277, 0x281, 0x283, 0x287, 0x28D, 0x293, 0x295, 0x2A1, 0x2A5, 0x2AB, 0x2B3, 0x2BD],
  [0x2C5, 0x2CF, 0x2D7, 0x2DD, 0x2E3, 0x2E7, 0x2EF, 0x2F5, 0x2F9, 0x301, 0x305, 0x313, 0x31D, 0x329, 0x32B, 0x335],
  [0x337, 0x33B, 0x33D, 0x347, 0x355, 0x359, 0x35B, 0x35F, 0x36D, 0x371, 0x373, 0x377, 0x38B, 0x38F, 0x397, 0x3A1],
  [0x3A9, 0x3AD, 0x3B3, 0x3B9, 0x3C7, 0x3CB, 0x3D1, 0x3D7, 0x3DF, 0x3E5]].flatten

def primes2 : List Nat := [
  [0x3F1, 0x3F5, 0x3FB, 0x3FD, 0x407, 0x409, 0x40F, 0x419, 0x41B, 0x425, 0x427, 0x42D, 0x43F, 0x443, 0x445, 0x449],
  [0x44F, 0x455, 0x45D, 0x463, 0x469, 0x47F, 0x481, 0x48B, 0x493, 0x49D, 0x4A3, 0x4A9, 0x4B1, 0x4BD, 0x4C1, 0x4C7],
  [0x4CD, 0x4CF, 0x4D5, 0x4E1, 0x4EB, 0x4FD, 0x4FF, 0x503, 0x509, 0x50B, 0x511, 0x515, 0x517, 0x51B, 0x527, 0x529],
  [0x52F, 0x551, 0x557, 0x55D, 0x565, 0x577, 0x581, 0x58F, 0x593, 0x595, 0x599, 0x59F, 0x5A7, 0x5AB, 0x5AD, 0x5B3],
  [0x5BF, 0x5C9, 0x5CB, 0x5CF, 0x5D1, 0x5D5, 0x5DB, 0x5E7, 0x5F3, 0x5FB, 0x607, 0x60D, 0x611, 0x617, 0x61F, 0x623],
  [0x62B, 0x62F, 0x63D, 0x641, 0x647, 0x649, 0x64D, 0x653, 0x655, 0x65B, 0x665, 0x679, 0x67F, 0x683, 0x685, 0x69D],
  [0x6A1, 0x6A3, 0x6AD, 0x6B9, 0x6BB, 0x6C5, 0x6CD, 0x6D3, 0x6D9, 0x6DF, 0x6F1, 0x6F7, 0x6FB, 0x6FD, 0x709, 0x713],
  [0x71F, 0x727, 0x737, 0x745, 0x74B, 0x74F, 0x751, 0x755, 0x757, 0x761, 0x76D, 0x773, 0x779, 0x78B, 0x78D, 0x79D],
  [0x79F, 0x7B5, 0x7BB, 0x7C3, 0x7C9, 0x7CD, 0x7CF, 0x7D3, 0x7DB, 0x7E1, 0x7EB, 0x7ED, 0x7F7, 0x805, 0x80F, 0x815],
  [0x821, 0x823, 0x827, 0x829, 0x833, 0x83F, 0x841, 0x851, 0x853, 0x859, 0x85D, 0x85F, 0x869, 0x871, 0x883, 0x89B],
  [0x89F, 0x8A5, 0x8AD, 0x8BD, 0x8BF, 0x8C3, 0x8CB, 0x8DB, 0x8DD, 0x8E1, 0x8E9, 0x8EF, 0x8F5, 0x8F9, 0x905, 0x907],
  [0x91D, 0x923, 0x925, 0x92B, 0x92F, 0x935, 0x943, 0x949, 0x94D, 0x94F, 0x955, 0x959, 0x95F, 0x96B, 0x971, 0x977],
  [0x985, 0x989, 0x98F, 0x99B, 0x9A3, 0x9A9, 0x9AD, 0x9C7, 0x9D9, 0x9E3, 0x9EB, 0x9EF, 0x9F5, 0x9F7, 0x9FD, 0xA13],
  [0xA1F, 0xA21, 0xA31, 0xA39, 0xA3D, 0xA49, 0xA57, 0xA61, 0xA63, 0xA67, 0xA6F, 0xA75, 0xA7B, 0xA7F, 0xA81, 0xA85],
  [0xA8B, 0xA93, 0xA97, 0xA99, 0xA9F, 0xAA9, 0xAAB, 0xAB5, 0xABD, 0xAC1, 0xACF, 0xAD9, 0xAE5, 0xAE7, 0xAED, 0xAF1],
  [0xAF3, 0xB03, 0xB11, 0xB15, 0xB1B, 0xB23, 0xB29, 0xB2D, 0xB3F, 0xB47, 0xB51, 0xB57, 0xB5D, 0xB65, 0xB6F, 0xB7B],
  [0xB89, 0xB8D, 0xB93, 0xB99, 0xB9B, 0xBB7, 0xBB9, 0xBC3, 0xBCB, 0xBCF, 0xBDD, 0xBE1, 0xBE9, 0xBF5, 0xBFB, 0xC07],
  [0xC0B, 0xC11, 0xC25, 0xC2F, 0xC31, 0xC41, 0xC5B, 0xC5F, 0xC61, 0xC6D, 0xC73, 0xC77, 0xC83, 0xC89, 0xC91, 0xC95],
  [0xC9D, 0xCB3, 0xCB5, 0xCB9, 0xCBB, 0xCC7, 0xCE3, 0xCE5, 0xCEB, 0xCF1, 0xCF7, 0xCFB, 0xD01, 0xD03, 0xD0F, 0xD13],
  [0xD1F, 0xD21, 0xD2B, 0xD2D, 0xD3D, 0xD3F, 0xD4F, 0xD55, 0xD69, 0xD79, 0xD81, 0xD85, 0xD87, 0xD8B, 0xD8D, 0xDA3],
  [0xDAB, 0xDB7, 0xDBD, 0xDC7, 0xDC9, 0xDCD, 0xDD3, 0xDD5, 0xDDB, 0xDE5, 0xDE7, 0xDF3, 0xDFD, 0xDFF, 0xE09, 0xE17],
  [0xE1D, 0xE21, 0xE27, 0xE2F, 0xE35, 0xE3B, 0xE4B, 0xE57, 0xE59, 0xE5D, 0xE6B, 0xE71, 0xE75, 0xE7D, 0xE87, 0xE8F],
  [0xE95, 0xE9B, 0xEB1, 0xEB7, 0xEB9, 0xEC3, 0xED1, 0xED5, 0xEDB, 0xEED, 0xEEF, 0xEF9, 0xF07, 0xF0B, 0xF0D, 0xF17],
  [0xF25, 0xF29, 0xF31, 0xF43, 0xF47, 0xF4D, 0xF4F, 0xF53, 0xF59, 0xF5B, 0xF67, 0xF6B, 0xF7F, 0xF95, 0xFA1, 0xFA3],
  [0xFA7, 0xFAD, 0xFB3, 0xFB5, 0xFBB, 0xFD1, 0xFD3, 0xFD9, 0xFE9, 0xFEF, 0xFFB, 0xFFD, 0x1003, 0x100F, 0x101F, 0x1021],
  [0x1025, 0x102B, 0x1039, 0x103D, 0x103F, 0x1051, 0x1069, 0x1073, 0x1079, 0x107B, 0x1085, 0x1087, 0x1091, 0x1093],
  [0x109D, 0x10A3, 0x10A5, 0x10AF, 0x10B1, 0x10BB, 0x10C1, 0x10C9, 0x10E7, 0x10F1, 0x10F3, 0x10FD, 0x1105, 0x110B],
  [0x1115, 0x1127, 0x112D, 0x1139, 0x1145, 0x1147, 0x1159, 0x115F, 0x1163, 0x1169, 0x116F, 0x1181, 0x1183, 0x118D],
  [0x119B, 0x11A1, 0x11A5, 0x11A7, 0x11AB, 0x11C3, 0x11C5, 0x11D1, 0x11D7, 0x11E7, 0x11EF, 0x11F5, 0x11FB, 0x120D],
  [0x121D, 0x121F, 0x1223, 0x1229, 0x122B, 0x1231, 0x1237, 0x1241, 0x1247, 0x1253, 0x125F, 0x1271, 0x1273, 0x1279],
  [0x127D, 0x128F, 0x1297, 0x12AF, 0x12B3, 0x12B5, 0x12B9, 0x12BF, 0x12C1, 0x12CD, 0x12D1, 0x12DF, 0x12FD, 0x1307],
  [0x130D, 0x1319, 0x1327, 0x132D, 0x1337, 0x1343, 0x1345, 0x1349, 0x134F, 0x1357, 0x135D, 0x1367, 0x1369, 0x136D],
  [0x137B, 0x1381, 0x1387, 0x138B, 0x1391, 0x1393, 0x139D, 0x139F, 0x13AF, 0x13BB, 0x13C3, 0x13D5, 0x13D9, 0x13DF],
  [0x13EB, 0x13ED, 0x13F3, 0x13F9, 0x13FF, 0x141B, 0x1421, 0x142F, 0x1433, 0x143B, 0x1445, 0x144D, 0x1459, 0x146B],
  [0x146F, 0x1471, 0x1475, 0x148D, 0x1499, 0x149F, 0x14A1, 0x14B1, 0x14B7, 0x14BD, 0x14CB, 0x14D5, 0x14E3, 0x14E7],
  [0x1505, 0x150B, 0x1511, 0x1517, 0x151F, 0x1525, 0x1529, 0x152B, 0x1537, 0x153D, 0x1541, 0x1543, 0x1549, 0x155F],
  [0x1565, 0x1567, 0x156B, 0x157D, 0x157F, 0x1583, 0x158F, 0x1591, 0x1597, 0x159B, 0x15B5, 0x15BB, 0x15C1, 0x15C5],
  [0x15CD, 0x15D7, 0x15F7, 0x1607, 0x1609, 0x160F, 0x1613, 0x1615, 0x1619, 0x161B, 0x1625, 0x1633, 0x1639, 0x163D],
  [0x1645, 0x164F, 0x1655, 0x1669, 0x166D, 0x166F, 0x1675, 0x1693, 0x1697, 0x169F, 0x16A9, 0x16AF, 0x16B5, 0x16BD],
  [0x16C3, 0x16CF, 0x16D3, 0x16D9, 0x16DB, 0x16E1, 0x16E5, 0x16EB, 0x16ED, 0x16F7, 0x16F9, 0x1709, 0x170F, 0x1723],
  [0x1727, 0x1733, 0x1741, 0x175D, 0x1763, 0x1777, 0x177B, 0x178D, 0x1795, 0x179B, 0x179F, 0x17A5, 0x17B3, 0x17B9],
  [0x17BF, 0x17C9, 0x17CB, 0x17D5, 0x17E1, 0x17E9, 0x17F3, 0x17F5, 0x17FF, 0x1807, 0x1813, 0x181D, 0x1835, 0x1837],
  [0x183B, 0x1843, 0x1849, 0x184D, 0x1855, 0x1867, 0x1871, 0x1877, 0x187D, 0x187F, 0x1885, 0x188F, 0x189B, 0x189D],
  [0x18A7, 0x18AD, 0x18B3, 0x18B9, 0x18C1, 0x18C7, 0x18D1, 0x18D7, 0x18D9, 0x18DF, 0x18E5, 0x18EB, 0x18F5, 0x18FD],
  [0x1915, 0x191B, 0x1931, 0x1933, 0x1945, 0x1949, 0x1951, 0x195B, 0x1979, 0x1981, 0x1993, 0x1997, 0x1999, 0x19A3],
  [0x19A9, 0x19AB, 0x19B1, 0x19B5, 0x19C7, 0x19CF, 0x19DB, 0x19ED, 0x19FD, 0x1A03, 0x1A05, 0x1A11, 0x1A17, 0x1A21],
  [0x1A23, 0x1A2D, 0x1A2F, 0x1A35, 0x1A3F, 0x1A4D, 0x1A51, 0x1A69, 0x1A6B, 0x1A7B, 0x1A7D, 0x1A87, 0x1A89, 0x1A93],
  [0x1AA7, 0x1AAB, 0x1AAD, 0x1AB1, 0x1AB9, 0x1AC9, 0x1ACF, 0x1AD5, 0x1AD7, 0x1AE3, 0x1AF3, 0x1AFB, 0x1AFF, 0x1B05],
  [0x1B23, 0x1B25, 0x1B2F, 0x1B31, 0x1B37, 0x1B3B, 0x1B41, 0x1B47, 0x1B4F, 0x1B55, 0x1B59, 0x1B65, 0x1B6B, 0x1B73],
  [0x1B7F, 0x1B83, 0x1B91, 0x1B9D, 0x1BA7, 0x1BBF, 0x1BC5, 0x1BD1, 0x1BD7, 0x1BD9, 0x1BEF, 0x1BF7, 0x1C09, 0x1C13],
  [0x1C19, 0x1C27, 0x1C2B, 0x1C2D, 0x1C33, 0x1C3D, 0x1C45, 0x1C4B, 0x1C4F, 0x1C55, 0x1C73, 0x1C81, 0x1C8B, 0x1C8D],
  [0x1C99, 0x1CA3, 0x1CA5, 0x1CB5, 0x1CB7, 0x1CC9, 0x1CE1, 0x1CF3, 0x1CF9, 0x1D09, 0x1D1B, 0x1D21, 0x1D23, 0x1D35],
  [0x1D39, 0x1D3F, 0x1D41, 0x1D4B, 0x1D53, 0x1D5D, 0x1D63, 0x1D69, 0x1D71, 0x1D75, 0x1D7B, 0x1D7D, 0x1D87, 0x1D89],
  [0x1D95, 0x1D99, 0x1D9F, 0x1DA5, 0x1DA7, 0x1DB3, 0x1DB7, 0x1DC5, 0x1DD7, 0x1DDB, 0x1DE1, 0x1DF5, 0x1DF9, 0x1E01],
  [0x1E07, 0x1E0B, 0x1E13, 0x1E17, 0x1E25, 0x1E2B, 0x1E2F, 0x1E3D, 0x1E49, 0x1E4D, 0x1E4F, 0x1E6D, 0x1E71, 0x1E89],
  [0x1E8F, 0x1E95, 0x1EA1, 0x1EAD, 0x1EBB, 0x1EC1, 0x1EC5, 0x1EC7, 0x1ECB, 0x1EDD, 0x1EE3, 0x1EEF, 0x1EF7, 0x1EFD],
  [0x1F01, 0x1F0D, 0x1F0F, 0x1F1B, 0x1F39, 0x1F49, 0x1F4B, 0x1F51, 0x1F67, 0x1F75, 0x1F7B, 0x1F85, 0x1F91, 0x1F97],
  [0x1F99, 0x1F9D, 0x1FA5, 0x1FAF, 0x1FB5, 0x1FBB, 0x1FD3, 0x1FE1, 0x1FE7, 0x1FEB, 0x1FF3, 0x1FFF, 0x2011, 0x201B],
  [0x201D, 0x2027, 0x2029, 0x202D, 0x2033, 0x2047, 0x204D, 0x2051, 0x205F, 0x2063, 0x2065, 0x2069, 0x2077, 0x207D],
  [0x2089, 0x20A1, 0x20AB, 0x20B1, 0x20B9, 0x20C3, 0x20C5, 0x20E3, 0x20E7, 0x20ED, 0x20EF, 0x20FB, 0x20FF, 0x210D],
  [0x2113, 0x2135, 0x2141, 0x2149, 0x214F, 0x2159, 0x215B, 0x215F, 0x2173, 0x217D, 0x2185, 0x2195, 0x2197, 0x21A1],
  [0x21AF, 0x21B3, 0x21B5, 0x21C1, 0x21C7, 0x21D7, 0x21DD, 0x21E5, 0x21E9, 0x21F1, 0x21F5, 0x21FB, 0x2203, 0x2209],
  [0x220F, 0x221B, 0x2221, 0x2225, 0x222B, 0x2231, 0x2239, 0x224B, 0x224F, 0x2263, 0x2267, 0x2273, 0x2275, 0x227F],
  [0x2285, 0x2287, 0x2291, 0x229D, 0x229F, 0x22A3, 0x22B7, 0x22BD, 0x22DB, 0x22E1, 0x22E5, 0x22ED, 0x22F7, 0x2303],
  [0x2309, 0x230B, 0x2327, 0x2329, 0x232F, 0x2333, 0x2335, 0x2345, 0x2351, 0x2353, 0x2359, 0x2363, 0x236B, 0x2383],
  [0x238F, 0x2395, 0x23A7, 0x23AD, 0x23B1, 0x23BF, 0x23C5, 0x23C9, 0x23D5, 0x23DD, 0x23E3, 0x23EF, 0x23F3, 0x23F9],
  [0x2405, 0x240B, 0x2417, 0x2419, 0x2429, 0x243D, 0x2441, 0x2443, 0x244D, 0x245F, 0x2467, 0x246B, 0x2479, 0x247D],
  [0x247F, 0x2485, 0x249B, 0x24A1, 0x24AF, 0x24B5, 0x24BB, 0x24C5, 0x24CB, 0x24CD, 0x24D7, 0x24D9, 0x24DD, 0x24DF],
  [0x24F5, 0x24F7, 0x24FB, 0x2501, 0x2507, 0x2513, 0x2519, 0x2527, 0x2531, 0x253D, 0x2543, 0x254B, 0x254F, 0x2573],
  [0x2581, 0x258D, 0x2593, 0x2597, 0x259D, 0x259F, 0x25AB, 0x25B1, 0x25BD, 0x25CD, 0x25CF, 0x25D9, 0x25E1, 0x25F7],
  [0x25F9, 0x2605, 0x260B, 0x260F, 0x2615, 0x2627, 0x2629, 0x2635, 0x263B, 0x263F, 0x264B, 0x2653, 0x2659, 0x2665],
  [0x2669, 0x266F, 0x267B, 0x2681, 0x2683, 0x268F, 0x269B, 0x269F, 0x26AD, 0x26B3, 0x26C3, 0x26C9, 0x26CB, 0x26D5],
  [0x26DD, 0x26EF, 0x26F5]].flatten

set_option maxRecDepth 40000 in
def primes3 : List Nat := [
  [0x2717, 0x2719, 0x2735, 0x2737, 0x274D, 0x2753, 0x2755, 0x275F, 0x276B, 0x276D, 0x2773, 0x2777, 0x277F, 0x2795],
  [0x279B, 0x279D, 0x27A7, 0x27AF, 0x27B3, 0x27B9, 0x27C1, 0x27C5, 0x27D1, 0x27E3, 0x27EF, 0x2803, 0x2807, 0x280D],
  [0x2813, 0x281B, 0x281F, 0x2821, 0x2831, 0x283D, 0x283F, 0x2849, 0x2851, 0x285B, 0x285D, 0x2861, 0x2867, 0x2875],
  [0x2881, 0x2897, 0x289F, 0x28BB, 0x28BD, 0x28C1, 0x28D5, 0x28D9, 0x28DB, 0x28DF, 0x28ED, 0x28F7, 0x2903, 0x2905],
  [0x2911, 0x2921, 0x2923, 0x293F, 0x2947, 0x295D, 0x2965, 0x2969, 0x296F, 0x2975, 0x2983, 0x2987, 0x298F, 0x299B],
  [0x29A1, 0x29A7, 0x29AB, 0x29BF, 0x29C3, 0x29D5, 0x29D7, 0x29E3, 0x29E9, 0x29ED, 0x29F3, 0x2A01, 0x2A13, 0x2A1D],
  [0x2A25, 0x2A2F, 0x2A4F, 0x2A55, 0x2A5F, 0x2A65, 0x2A6B, 0x2A6D, 0x2A73, 0x2A83, 0x2A89, 0x2A8B, 0x2A97, 0x2A9D],
  [0x2AB9, 0x2ABB, 0x2AC5, 0x2ACD, 0x2ADD, 0x2AE3, 0x2AEB, 0x2AF1, 0x2AFB, 0x2B13, 0x2B27, 0x2B31, 0x2B33, 0x2B3D],
  [0x2B3F, 0x2B4B, 0x2B4F, 0x2B55, 0x2B69, 0x2B6D, 0x2B6F, 0x2B7B, 0x2B8D, 0x2B97, 0x2B99, 0x2BA3, 0x2BA5, 0x2BA9],
  [0x2BBD, 0x2BCD, 0x2BE7, 0x2BEB, 0x2BF3, 0x2BF9, 0x2BFD, 0x2C09, 0x2C0F, 0x2C17, 0x2C23, 0x2C2F, 0x2C35, 0x2C39],
  [0x2C41, 0x2C57, 0x2C59, 0x2C69, 0x2C77, 0x2C81, 0x2C87, 0x2C93, 0x2C9F, 0x2CAD, 0x2CB3, 0x2CB7, 0x2CCB, 0x2CCF],
  [0x2CDB, 0x2CE1, 0x2CE3, 0x2CE9, 0x2CEF, 0x2CFF, 0x2D07, 0x2D1D, 0x2D1F, 0x2D3B, 0x2D43, 0x2D49, 0x2D4D, 0x2D61],
  [0x2D65, 0x2D71, 0x2D89, 0x2D9D, 0x2DA1, 0x2DA9, 0x2DB3, 0x2DB5, 0x2DC5, 0x2DC7, 0x2DD3, 0x2DDF, 0x2E01, 0x2E03],
  [0x2E07, 0x2E0D, 0x2E19, 0x2E1F, 0x2E25, 0x2E2D, 0x2E33, 0x2E37, 0x2E39, 0x2E3F, 0x2E57, 0x2E5B, 0x2E6F, 0x2E79],
  [0x2E7F, 0x2E85, 0x2E93, 0x2E97, 0x2E9D, 0x2EA3, 0x2EA5, 0x2EB1, 0x2EB7, 0x2EC1, 0x2EC3, 0x2ECD, 0x2ED3, 0x2EE7],
  [0x2EEB, 0x2F05, 0x2F09, 0x2F0B, 0x2F11, 0x2F27, 0x2F29, 0x2F41, 0x2F45, 0x2F4B, 0x2F4D, 0x2F51, 0x2F57, 0x2F6F],
  [0x2F75, 0x2F7D, 0x2F81, 0x2F83, 0x2FA5, 0x2FAB, 0x2FB3, 0x2FC3, 0x2FCF, 0x2FD1, 0x2FDB, 0x2FDD, 0x2FE7, 0x2FED],
  [0x2FF5, 0x2FF9, 0x3001, 0x300D, 0x3023, 0x3029, 0x3037, 0x303B, 0x3055, 0x3059, 0x305B, 0x3067, 0x3071, 0x3079],
  [0x307D, 0x3085, 0x3091, 0x3095, 0x30A3, 0x30A9, 0x30B9, 0x30BF, 0x30C7, 0x30CB, 0x30D1, 0x30D7, 0x30DF, 0x30E5],
  [0x30EF, 0x30FB, 0x30FD, 0x3103, 0x3109, 0x3119, 0x3121, 0x3127, 0x312D, 0x3139, 0x3143, 0x3145, 0x314B, 0x315D],
  [0x3161, 0x3167, 0x316D, 0x3173, 0x317F, 0x3191, 0x3199, 0x319F, 0x31A9, 0x31B1, 0x31C3, 0x31C7, 0x31D5, 0x31DB],
  [0x31ED, 0x31F7, 0x31FF, 0x3209, 0x3215, 0x3217, 0x321D, 0x3229, 0x3235, 0x3259, 0x325D, 0x3263, 0x326B, 0x326F],
  [0x3275, 0x3277, 0x327B, 0x328D, 0x3299, 0x329F, 0x32A7, 0x32AD, 0x32B3, 0x32B7, 0x32C9, 0x32CB, 0x32CF, 0x32D1],
  [0x32E9, 0x32ED, 0x32F3, 0x32F9, 0x3307, 0x3325, 0x332B, 0x332F, 0x3335, 0x3341, 0x3347, 0x335B, 0x335F, 0x3367],
  [0x336B, 0x3373, 0x3379, 0x337F, 0x3383, 0x33A1, 0x33A3, 0x33AD, 0x33B9, 0x33C1, 0x33CB, 0x33D3, 0x33EB, 0x33F1],
  [0x33FD, 0x3401, 0x340F, 0x3413, 0x3419, 0x341B, 0x3437, 0x3445, 0x3455, 0x3457, 0x3463, 0x3469, 0x346D, 0x3481],
  [0x348B, 0x3491, 0x3497, 0x349D, 0x34A5, 0x34AF, 0x34BB, 0x34C9, 0x34D3, 0x34E1, 0x34F1, 0x34FF, 0x3509, 0x3517],
  [0x351D, 0x352D, 0x3533, 0x353B, 0x3541, 0x3551, 0x3565, 0x356F, 0x3571, 0x3577, 0x357B, 0x357D, 0x3581, 0x358D],
  [0x358F, 0x3599, 0x359B, 0x35A1, 0x35B7, 0x35BD, 0x35BF, 0x35C3, 0x35D5, 0x35DD, 0x35E7, 0x35EF, 0x3605, 0x3607],
  [0x3611, 0x3623, 0x3631, 0x3635, 0x3637, 0x363B, 0x364D, 0x364F, 0x3653, 0x3659, 0x3661, 0x366B, 0x366D, 0x368B],
  [0x368F, 0x36AD, 0x36AF, 0x36B9, 0x36BB, 0x36CD, 0x36D1, 0x36E3, 0x36E9, 0x36F7, 0x3701, 0x3703, 0x3707, 0x371B],
  [0x373F, 0x3745, 0x3749, 0x374F, 0x375D, 0x3761, 0x3775, 0x377F, 0x378D, 0x37A3, 0x37A9, 0x37AB, 0x37C9, 0x37D5],
  [0x37DF, 0x37F1, 0x37F3, 0x37F7, 0x3805, 0x380B, 0x3821, 0x3833, 0x3835, 0x3841, 0x3847, 0x384B, 0x3853, 0x3857],
  [0x385F, 0x3865, 0x386F, 0x3871, 0x387D, 0x388F, 0x3899, 0x38A7, 0x38B7, 0x38C5, 0x38C9, 0x38CF, 0x38D5, 0x38D7],
  [0x38DD, 0x38E1, 0x38E3, 0x38FF, 0x3901, 0x391D, 0x3923, 0x3925, 0x3929, 0x392F, 0x393D, 0x3941, 0x394D, 0x395B],
  [0x396B, 0x3979, 0x397D, 0x3983, 0x398B, 0x3991, 0x3995, 0x399B, 0x39A1, 0x39A7, 0x39AF, 0x39B3, 0x39BB, 0x39BF],
  [0x39CD, 0x39DD, 0x39E5, 0x39EB, 0x39EF, 0x39FB, 0x3A03, 0x3A13, 0x3A15, 0x3A1F, 0x3A27, 0x3A2B, 0x3A31, 0x3A4B],
  [0x3A51, 0x3A5B, 0x3A63, 0x3A67, 0x3A6D, 0x3A79, 0x3A87, 0x3AA5, 0x3AA9, 0x3AB7, 0x3ACD, 0x3AD5, 0x3AE1, 0x3AE5],
  [0x3AEB, 0x3AF3, 0x3AFD, 0x3B03, 0x3B11, 0x3B1B, 0x3B21, 0x3B23, 0x3B2D, 0x3B39, 0x3B45, 0x3B53, 0x3B59, 0x3B5F],
  [0x3B71, 0x3B7B, 0x3B81, 0x3B89, 0x3B9B, 0x3B9F, 0x3BA5, 0x3BA7, 0x3BAD, 0x3BB7, 0x3BB9, 0x3BC3, 0x3BCB, 0x3BD1],
  [0x3BD7, 0x3BE1, 0x3BE3, 0x3BF5, 0x3BFF, 0x3C01, 0x3C0D, 0x3C11, 0x3C17, 0x3C1F, 0x3C29, 0x3C35, 0x3C43, 0x3C4F],
  [0x3C53, 0x3C5B, 0x3C65, 0x3C6B, 0x3C71, 0x3C85, 0x3C89, 0x3C97, 0x3CA7, 0x3CB5, 0x3CBF, 0x3CC7, 0x3CD1, 0x3CDD],
  [0x3CDF, 0x3CF1, 0x3CF7, 0x3D03, 0x3D0D, 0x3D19, 0x3D1B, 0x3D1F, 0x3D21, 0x3D2D, 0x3D33, 0x3D37, 0x3D3F, 0x3D43],
  [0x3D6F, 0x3D73, 0x3D75, 0x3D79, 0x3D7B, 0x3D85, 0x3D91, 0x3D97, 0x3D9D, 0x3DAB, 0x3DAF, 0x3DB5, 0x3DBB, 0x3DC1],
  [0x3DC9, 0x3DCF, 0x3DF3, 0x3E05, 0x3E09, 0x3E0F, 0x3E11, 0x3E1D, 0x3E23, 0x3E29, 0x3E2F, 0x3E33, 0x3E41, 0x3E57],
  [0x3E63, 0x3E65, 0x3E77, 0x3E81, 0x3E87, 0x3EA1, 0x3EB9, 0x3EBD, 0x3EBF, 0x3EC3, 0x3EC5, 0x3EC9, 0x3ED7, 0x3EDB],
  [0x3EE1, 0x3EE7, 0x3EEF, 0x3EFF, 0x3F0B, 0x3F0D, 0x3F37, 0x3F3B, 0x3F3D, 0x3F41, 0x3F59, 0x3F5F, 0x3F65, 0x3F67],
  [0x3F79, 0x3F7D, 0x3F8B, 0x3F91, 0x3FAD, 0x3FBF, 0x3FCD, 0x3FD3, 0x3FDD, 0x3FE9, 0x3FEB, 0x3FF1, 0x3FFD, 0x401B],
  [0x4021, 0x4025, 0x402B, 0x4031, 0x403F, 0x4043, 0x4045, 0x405D, 0x4061, 0x4067, 0x406D, 0x4087, 0x4091, 0x40A3],
  [0x40A9, 0x40B1, 0x40B7, 0x40BD, 0x40DB, 0x40DF, 0x40EB, 0x40F7, 0x40F9, 0x4109, 0x410B, 0x4111, 0x4115, 0x4121],
  [0x4133, 0x4135, 0x413B, 0x413F, 0x4159, 0x4165, 0x416B, 0x4177, 0x417B, 0x4193, 0x41AB, 0x41B7, 0x41BD, 0x41BF],
  [0x41CB, 0x41E7, 0x41EF, 0x41F3, 0x41F9, 0x4205, 0x4207, 0x4219, 0x421F, 0x4223, 0x4229, 0x422F, 0x4243, 0x4253],
  [0x4255, 0x425B, 0x4261, 0x4273, 0x427D, 0x4283, 0x4285, 0x4289, 0x4291, 0x4297, 0x429D, 0x42B5, 0x42C5, 0x42CB],
  [0x42D3, 0x42DD, 0x42E3, 0x42F1, 0x4307, 0x430F, 0x431F, 0x4325, 0x4327, 0x4333, 0x4337, 0x4339, 0x434F, 0x4357],
  [0x4369, 0x438B, 0x438D, 0x4393, 0x43A5, 0x43A9, 0x43AF, 0x43B5, 0x43BD, 0x43C7, 0x43CF, 0x43E1, 0x43E7, 0x43EB],
  [0x43ED, 0x43F1, 0x43F9, 0x4409, 0x440B, 0x4417, 0x4423, 0x4429, 0x443B, 0x443F, 0x4445, 0x444B, 0x4451, 0x4453],
  [0x4459, 0x4465, 0x446F, 0x4483, 0x448F, 0x44A1, 0x44A5, 0x44AB, 0x44AD, 0x44BD, 0x44BF, 0x44C9, 0x44D7, 0x44DB],
  [0x44F9, 0x44FB, 0x4505, 0x4511, 0x4513, 0x452B, 0x4531, 0x4541, 0x4549, 0x4553, 0x4555, 0x4561, 0x4577, 0x457D],
  [0x457F, 0x458F, 0x45A3, 0x45AD, 0x45AF, 0x45BB, 0x45C7, 0x45D9, 0x45E3, 0x45EF, 0x45F5, 0x45F7, 0x4601, 0x4603],
  [0x4609, 0x4613, 0x4625, 0x4627, 0x4633, 0x4639, 0x463D, 0x4643, 0x4645, 0x465D, 0x4679, 0x467B, 0x467F, 0x4681],
  [0x468B, 0x468D, 0x469D, 0x46A9, 0x46B1, 0x46C7, 0x46C9, 0x46CF, 0x46D3, 0x46D5, 0x46DF, 0x46E5, 0x46F9, 0x4705],
  [0x470F, 0x4717, 0x4723, 0x4729, 0x472F, 0x4735, 0x4739, 0x474B, 0x474D, 0x4751, 0x475D, 0x476F, 0x4771, 0x477D],
  [0x4783, 0x4787, 0x4789, 0x4799, 0x47A5, 0x47B1, 0x47BF, 0x47C3, 0x47CB, 0x47DD, 0x47E1, 0x47ED, 0x47FB, 0x4801],
  [0x4807, 0x480B, 0x4813, 0x4819, 0x481D, 0x4831, 0x483D, 0x4847, 0x4855, 0x4859, 0x485B, 0x486B, 0x486D, 0x4879],
  [0x4897, 0x489B, 0x48A1, 0x48B9, 0x48CD, 0x48E5, 0x48EF, 0x48F7, 0x4903, 0x490D, 0x4919, 0x491F, 0x492B, 0x4937],
  [0x493D, 0x4945, 0x4955, 0x4963, 0x4969, 0x496D, 0x4973, 0x4997, 0x49AB, 0x49B5, 0x49D3, 0x49DF, 0x49E1, 0x49E5],
  [0x49E7, 0x4A03, 0x4A0F, 0x4A1D, 0x4A23, 0x4A39, 0x4A41, 0x4A45, 0x4A57, 0x4A5D, 0x4A6B, 0x4A7D, 0x4A81, 0x4A87],
  [0x4A89, 0x4A8F, 0x4AB1, 0x4AC3, 0x4AC5, 0x4AD5, 0x4ADB, 0x4AED, 0x4AEF, 0x4B07, 0x4B0B, 0x4B0D, 0x4B13, 0x4B1F],
  [0x4B25, 0x4B31, 0x4B3B, 0x4B43, 0x4B49, 0x4B59, 0x4B65, 0x4B6D, 0x4B77, 0x4B85, 0x4BAD, 0x4BB3, 0x4BB5, 0x4BBB],
  [0x4BBF, 0x4BCB, 0x4BD9, 0x4BDD, 0x4BDF, 0x4BE3, 0x4BE5, 0x4BE9, 0x4BF1, 0x4BF7, 0x4C01, 0x4C07, 0x4C0D, 0x4C0F],
  [0x4C15, 0x4C1B, 0x4C21, 0x4C2D, 0x4C33, 0x4C4B, 0x4C55, 0x4C57, 0x4C61, 0x4C67, 0x4C73, 0x4C79, 0x4C7F, 0x4C8D],
  [0x4C93, 0x4C99, 0x4CCD, 0x4CE1, 0x4CE7, 0x4CF1, 0x4CF3, 0x4CFD, 0x4D05, 0x4D0F, 0x4D1B, 0x4D27, 0x4D29, 0x4D2F],
  [0x4D33, 0x4D41, 0x4D51, 0x4D59, 0x4D65, 0x4D6B, 0x4D81, 0x4D83, 0x4D8D, 0x4D95, 0x4D9B, 0x4DB1, 0x4DB3, 0x4DC9],
  [0x4DCF, 0x4DD7, 0x4DE1, 0x4DED, 0x4DF9, 0x4DFB, 0x4E05, 0x4E0B, 0x4E17, 0x4E19, 0x4E1D, 0x4E2B, 0x4E35, 0x4E37],
  [0x4E3D, 0x4E4F, 0x4E53, 0x4E5F, 0x4E67, 0x4E79, 0x4E85, 0x4E8B, 0x4E91, 0x4E95, 0x4E9B, 0x4EA1, 0x4EAF, 0x4EB3],
  [0x4EB5, 0x4EC1, 0x4ECD, 0x4ED1, 0x4ED7, 0x4EE9, 0x4EFB, 0x4F07, 0x4F09, 0x4F19, 0x4F25, 0x4F2D, 0x4F3F, 0x4F49],
  [0x4F63, 0x4F67, 0x4F6D, 0x4F75, 0x4F7B, 0x4F81, 0x4F85, 0x4F87, 0x4F91, 0x4FA5, 0x4FA9, 0x4FAF, 0x4FB7, 0x4FBB],
  [0x4FCF, 0x4FD9, 0x4FDB, 0x4FFD, 0x4FFF, 0x5003, 0x501B, 0x501D, 0x5029, 0x5035, 0x503F, 0x5045, 0x5047, 0x5053],
  [0x5071, 0x5077, 0x5083, 0x5093, 0x509F, 0x50A1, 0x50B7, 0x50C9, 0x50D5, 0x50E3, 0x50ED, 0x50EF, 0x50FB, 0x5107],
  [0x510B, 0x510D, 0x5111, 0x5117, 0x5123, 0x5125, 0x5135, 0x5147, 0x5149, 0x5171, 0x5179, 0x5189, 0x518F, 0x5197],
  [0x51A1, 0x51A3, 0x51A7, 0x51B9, 0x51C1, 0x51CB, 0x51D3, 0x51DF, 0x51E3, 0x51F5, 0x51F7, 0x5209, 0x5213, 0x5215],
  [0x5219, 0x521B, 0x521F, 0x5227, 0x5243, 0x5245, 0x524B, 0x5261, 0x526D, 0x5273, 0x5281, 0x5293, 0x5297, 0x529D],
  [0x52A5, 0x52AB, 0x52B1, 0x52BB, 0x52C3, 0x52C7, 0x52C9, 0x52DB, 0x52E5, 0x52EB, 0x52FF, 0x5315, 0x531D, 0x5323],
  [0x5341, 0x5345, 0x5347, 0x534B, 0x535D, 0x5363, 0x5381, 0x5383, 0x5387, 0x538F, 0x5395, 0x5399, 0x539F, 0x53AB],
  [0x53B9, 0x53DB, 0x53E9, 0x53EF, 0x53F3, 0x53F5, 0x53FB, 0x53FF, 0x540D, 0x5411, 0x5413, 0x5419, 0x5435, 0x5437],
  [0x543B, 0x5441, 0x5449, 0x5453, 0x5455, 0x545F, 0x5461, 0x546B, 0x546D, 0x5471, 0x548F, 0x5491, 0x549D, 0x54A9],
  [0x54B3, 0x54C5, 0x54D1, 0x54DF, 0x54E9, 0x54EB, 0x54F7, 0x54FD, 0x5507, 0x550D, 0x551B, 0x5527, 0x552B, 0x5539],
  [0x553D, 0x554F, 0x5551, 0x555B, 0x5563, 0x5567, 0x556F, 0x5579, 0x5585, 0x5597, 0x55A9, 0x55B1, 0x55B7, 0x55C9],
  [0x55D9, 0x55E7, 0x55ED, 0x55F3, 0x55FD, 0x560B, 0x560F, 0x5615, 0x5617, 0x5623, 0x562F, 0x5633, 0x5639, 0x563F],
  [0x564B, 0x564D, 0x565D, 0x565F, 0x566B, 0x5671, 0x5675, 0x5683, 0x5689, 0x568D, 0x568F, 0x569B, 0x56AD, 0x56B1],
  [0x56D5, 0x56E7, 0x56F3, 0x56FF, 0x5701, 0x5705, 0x5707, 0x570B, 0x5713, 0x571F, 0x5723, 0x5747, 0x574D, 0x575F],
  [0x5761, 0x576D, 0x5777, 0x577D, 0x5789, 0x57A1, 0x57A9, 0x57AF, 0x57B5, 0x57C5, 0x57D1, 0x57D3, 0x57E5, 0x57EF],
  [0x5803, 0x580D, 0x580F, 0x5815, 0x5827, 0x582B, 0x582D, 0x5855, 0x585B, 0x585D, 0x586D, 0x586F, 0x5873, 0x587B],
  [0x588D, 0x5897, 0x58A3, 0x58A9, 0x58AB, 0x58B5, 0x58BD, 0x58C1, 0x58C7, 0x58D3, 0x58D5, 0x58DF, 0x58F1, 0x58F9],
  [0x58FF, 0x5903, 0x5917, 0x591B, 0x5921, 0x5945, 0x594B, 0x594D, 0x5957, 0x595D, 0x5975, 0x597B, 0x5989, 0x5999],
  [0x599F, 0x59B1, 0x59B3, 0x59BD, 0x59D1, 0x59DB, 0x59E3, 0x59E9, 0x59ED, 0x59F3, 0x59F5, 0x59FF, 0x5A01, 0x5A0D],
  [0x5A11, 0x5A13, 0x5A17, 0x5A1F, 0x5A29, 0x5A2F, 0x5A3B, 0x5A4D, 0x5A5B, 0x5A67, 0x5A77, 0x5A7F, 0x5A85, 0x5A95],
  [0x5A9D, 0x5AA1, 0x5AA3, 0x5AA9, 0x5ABB, 0x5AD3, 0x5AE5, 0x5AEF, 0x5AFB, 0x5AFD, 0x5B01, 0x5B0F, 0x5B19, 0x5B1F],
  [0x5B25, 0x5B2B, 0x5B3D, 0x5B49, 0x5B4B, 0x5B67, 0x5B79, 0x5B87, 0x5B97, 0x5BA3, 0x5BB1, 0x5BC9, 0x5BD5, 0x5BEB],
  [0x5BF1, 0x5BF3, 0x5BFD, 0x5C05, 0x5C09, 0x5C0B, 0x5C0F, 0x5C1D, 0x5C29, 0x5C2F, 0x5C33, 0x5C39, 0x5C47, 0x5C4B],
  [0x5C4D, 0x5C51, 0x5C6F, 0x5C75, 0x5C77, 0x5C7D, 0x5C87, 0x5C89, 0x5CA7, 0x5CBD, 0x5CBF, 0x5CC3, 0x5CC9, 0x5CD1],
  [0x5CD7, 0x5CDD, 0x5CED, 0x5CF9, 0x5D05, 0x5D0B, 0x5D13, 0x5D17, 0x5D19, 0x5D31, 0x5D3D, 0x5D41, 0x5D47, 0x5D4F],
  [0x5D55, 0x5D5B, 0x5D65, 0x5D67, 0x5D6D, 0x5D79, 0x5D95, 0x5DA3, 0x5DA9, 0x5DAD, 0x5DB9, 0x5DC1, 0x5DC7, 0x5DD3],
  [0x5DD7, 0x5DDD, 0x5DEB, 0x5DF1, 0x5DFD, 0x5E07, 0x5E0D, 0x5E13, 0x5E1B, 0x5E21, 0x5E27, 0x5E2B, 0x5E2D, 0x5E31],
  [0x5E39, 0x5E45, 0x5E49, 0x5E57, 0x5E69, 0x5E73, 0x5E75, 0x5E85, 0x5E8B, 0x5E9F, 0x5EA5, 0x5EAF, 0x5EB7, 0x5EBB],
  [0x5ED9, 0x5EFD, 0x5F09, 0x5F11, 0x5F27, 0x5F33, 0x5F35, 0x5F3B, 0x5F47, 0x5F57, 0x5F5D, 0x5F63, 0x5F65, 0x5F77],
  [0x5F7B, 0x5F95, 0x5F99, 0x5FA1, 0x5FB3, 0x5FBD, 0x5FC5, 0x5FCF, 0x5FD5, 0x5FE3, 0x5FE7, 0x5FFB, 0x6011, 0x6023],
  [0x602F, 0x6037, 0x6053, 0x605F, 0x6065, 0x606B, 0x6073, 0x6079, 0x6085, 0x609D, 0x60AD, 0x60BB, 0x60BF, 0x60CD],
  [0x60D9, 0x60DF, 0x60E9, 0x60F5, 0x6109, 0x610F, 0x6113, 0x611B, 0x612D, 0x6139, 0x614B, 0x6155, 0x6157, 0x615B],
  [0x616F, 0x6179, 0x6187, 0x618B, 0x6191, 0x6193, 0x619D, 0x61B5, 0x61C7, 0x61C9, 0x61CD, 0x61E1, 0x61F1, 0x61FF],
  [0x6209, 0x6217, 0x621D, 0x6221, 0x6227, 0x623B, 0x6241, 0x624B, 0x6251, 0x6253, 0x625F, 0x6265, 0x6283, 0x628D],
  [0x6295, 0x629B, 0x629F, 0x62A5, 0x62AD, 0x62D5, 0x62D7, 0x62DB, 0x62DD, 0x62E9, 0x62FB, 0x62FF, 0x6305, 0x630D],
  [0x6317, 0x631D, 0x632F, 0x6341, 0x6343, 0x634F, 0x635F, 0x6367, 0x636D, 0x6371, 0x6377, 0x637D, 0x637F, 0x63B3],
  [0x63C1, 0x63C5, 0x63D9, 0x63E9, 0x63EB, 0x63EF, 0x63F5, 0x6401, 0x6403, 0x6409, 0x6415, 0x6421, 0x6427, 0x642B],
  [0x6439, 0x6443, 0x6449, 0x644F, 0x645D, 0x6467, 0x6475, 0x6485, 0x648D, 0x6493, 0x649F, 0x64A3, 0x64AB, 0x64C1],
  [0x64C7, 0x64C9, 0x64DB, 0x64F1, 0x64F7, 0x64F9, 0x650B, 0x6511, 0x6521, 0x652F, 0x6539, 0x653F, 0x654B, 0x654D],
  [0x6553, 0x6557, 0x655F, 0x6571, 0x657D, 0x658D, 0x658F, 0x6593, 0x65A1, 0x65A5, 0x65AD, 0x65B9, 0x65C5, 0x65E3],
  [0x65F3, 0x65FB, 0x65FF, 0x6601, 0x6607, 0x661D, 0x6629, 0x6631, 0x663B, 0x6641, 0x6647, 0x664D, 0x665B, 0x6661],
  [0x6673, 0x667D, 0x6689, 0x668B, 0x6695, 0x6697, 0x669B, 0x66B5, 0x66B9, 0x66C5, 0x66CD, 0x66D1, 0x66E3, 0x66EB],
  [0x66F5, 0x6703, 0x6713, 0x6719, 0x671F, 0x6727, 0x6731, 0x6737, 0x673F, 0x6745, 0x6751, 0x675B, 0x676F, 0x6779],
  [0x6781, 0x6785, 0x6791, 0x67AB, 0x67BD, 0x67C1, 0x67CD, 0x67DF, 0x67E5, 0x6803, 0x6809, 0x6811, 0x6817, 0x682D],
  [0x6839, 0x683B, 0x683F, 0x6845, 0x684B, 0x684D, 0x6857, 0x6859, 0x685D, 0x6863, 0x6869, 0x686B, 0x6871, 0x6887],
  [0x6899, 0x689F, 0x68B1, 0x68BD, 0x68C5, 0x68D1, 0x68D7, 0x68E1, 0x68ED, 0x68EF, 0x68FF, 0x6901, 0x690B, 0x690D],
  [0x6917, 0x6929, 0x692F, 0x6943, 0x6947, 0x6949, 0x694F, 0x6965, 0x696B, 0x6971, 0x6983, 0x6989, 0x6997, 0x69A3],
  [0x69B3, 0x69B5, 0x69BB, 0x69C1, 0x69C5, 0x69D3, 0x69DF, 0x69E3, 0x69E5, 0x69F7, 0x6A07, 0x6A2B, 0x6A37, 0x6A3D],
  [0x6A4B, 0x6A67, 0x6A69, 0x6A75, 0x6A7B, 0x6A87, 0x6A8D, 0x6A91, 0x6A93, 0x6AA3, 0x6AC1, 0x6AC9, 0x6AE1, 0x6AE7],
  [0x6B05, 0x6B0F, 0x6B11, 0x6B23, 0x6B27, 0x6B2D, 0x6B39, 0x6B41, 0x6B57, 0x6B59, 0x6B5F, 0x6B75, 0x6B87, 0x6B89],
  [0x6B93, 0x6B95, 0x6B9F, 0x6BBD, 0x6BBF, 0x6BDB, 0x6BE1, 0x6BEF, 0x6BFF, 0x6C05, 0x6C19, 0x6C29, 0x6C2B, 0x6C31],
  [0x6C35, 0x6C55, 0x6C59, 0x6C5B, 0x6C5F, 0x6C65, 0x6C67, 0x6C73, 0x6C77, 0x6C7D, 0x6C83, 0x6C8F, 0x6C91, 0x6C97],
  [0x6C9B, 0x6CA1, 0x6CA9, 0x6CAF, 0x6CB3, 0x6CC7, 0x6CCB, 0x6CEB, 0x6CF5, 0x6CFD, 0x6D0D, 0x6D0F, 0x6D25, 0x6D27],
  [0x6D2B, 0x6D31, 0x6D39, 0x6D3F, 0x6D4F, 0x6D5D, 0x6D61, 0x6D73, 0x6D7B, 0x6D7F, 0x6D93, 0x6D99, 0x6DA5, 0x6DB1],
  [0x6DB7, 0x6DC1, 0x6DC3, 0x6DCD, 0x6DCF, 0x6DDB, 0x6DF7, 0x6E03, 0x6E15, 0x6E17, 0x6E29, 0x6E33, 0x6E3B, 0x6E45],
  [0x6E75, 0x6E77, 0x6E7B, 0x6E81, 0x6E89, 0x6E93, 0x6E95, 0x6E9F, 0x6EBD, 0x6EBF, 0x6EE3, 0x6EE9, 0x6EF3, 0x6EF9],
  [0x6EFB, 0x6F0D, 0x6F11, 0x6F17, 0x6F1F, 0x6F2F, 0x6F3D, 0x6F4D, 0x6F53, 0x6F61, 0x6F65, 0x6F79, 0x6F7D, 0x6F83],
  [0x6F85, 0x6F8F, 0x6F9B, 0x6F9D, 0x6FA3, 0x6FAF, 0x6FB5, 0x6FBB, 0x6FBF, 0x6FCB, 0x6FCD, 0x6FD3, 0x6FD7, 0x6FE3],
  [0x6FE9, 0x6FF1, 0x6FF5, 0x6FF7, 0x6FFD, 0x700F, 0x7019, 0x701F, 0x7027, 0x7033, 0x7039, 0x704F, 0x7051, 0x7057],
  [0x7063, 0x7075, 0x7079, 0x7087, 0x708D, 0x7091, 0x70A5, 0x70AB, 0x70BB, 0x70C3, 0x70C7, 0x70CF, 0x70E5, 0x70ED],
  [0x70F9, 0x70FF, 0x7105, 0x7115, 0x7121, 0x7133, 0x7151, 0x7159, 0x715D, 0x715F, 0x7163, 0x7169, 0x7183, 0x7187],
  [0x7195, 0x71AD, 0x71C3, 0x71C9, 0x71CB, 0x71D1, 0x71DB, 0x71E1, 0x71EF, 0x71F5, 0x71FB, 0x7207, 0x7211, 0x7217],
  [0x7219, 0x7225, 0x722F, 0x723B, 0x7243, 0x7255, 0x7267, 0x7271, 0x7277, 0x727F, 0x728F, 0x7295, 0x729B, 0x72A3],
  [0x72B3, 0x72C7, 0x72CB, 0x72CD, 0x72D7, 0x72D9, 0x72E3, 0x72EF, 0x72F5, 0x72FD, 0x7303, 0x730D, 0x7321, 0x732B],
  [0x733D, 0x7357, 0x735B, 0x7361, 0x737F, 0x7381, 0x7385, 0x738D, 0x7393, 0x739F, 0x73AB, 0x73BD, 0x73C1, 0x73C9],
  [0x73DF, 0x73E5, 0x73E7, 0x73F3, 0x7415, 0x741B, 0x742D, 0x7439, 0x743F, 0x7441, 0x745D, 0x746B, 0x747B, 0x7489],
  [0x748D, 0x749B, 0x74A7, 0x74AB, 0x74B1, 0x74B7, 0x74B9, 0x74DD, 0x74E1, 0x74E7, 0x74FB, 0x7507, 0x751F, 0x7525],
  [0x753B, 0x753D, 0x754D, 0x755F, 0x756B, 0x7577, 0x7589, 0x758B, 0x7591, 0x7597, 0x759D, 0x75A1, 0x75A7, 0x75B5],
  [0x75B9, 0x75BB, 0x75D1, 0x75D9, 0x75E5, 0x75EB, 0x75F5, 0x75FB, 0x7603, 0x760F, 0x7621, 0x762D, 0x7633, 0x763D],
  [0x763F, 0x7655, 0x7663, 0x7669, 0x766F, 0x7673, 0x7685, 0x768B, 0x769F, 0x76B5, 0x76B7, 0x76C3, 0x76DB, 0x76DF],
  [0x76F1, 0x7703, 0x7705, 0x771B, 0x771D, 0x7721, 0x772D, 0x7735, 0x7741, 0x774B, 0x7759, 0x775D, 0x775F, 0x7771],
  [0x7781, 0x77A7, 0x77AD, 0x77B3, 0x77B9, 0x77C5, 0x77CF, 0x77D5, 0x77E1, 0x77E9, 0x77EF, 0x77F3, 0x77F9, 0x7807],
  [0x7825, 0x782B, 0x7835, 0x783D, 0x7853, 0x7859, 0x7861, 0x786D, 0x7877, 0x7879, 0x7883, 0x7885, 0x788B, 0x7895],
  [0x7897, 0x78A1, 0x78AD, 0x78BF, 0x78D3, 0x78D9, 0x78DD, 0x78E5, 0x78FB, 0x7901, 0x7907, 0x7925, 0x792B, 0x7939],
  [0x793F, 0x794B, 0x7957, 0x795D, 0x7967, 0x7969, 0x7973, 0x7991, 0x7993, 0x79A3, 0x79AB, 0x79AF, 0x79B1, 0x79B7],
  [0x79C9, 0x79CD, 0x79CF, 0x79D5, 0x79D9, 0x79F3, 0x79F7, 0x79FF, 0x7A05, 0x7A0F, 0x7A11, 0x7A15, 0x7A1B, 0x7A23],
  [0x7A27, 0x7A2D, 0x7A4B, 0x7A57, 0x7A59, 0x7A5F, 0x7A65, 0x7A69, 0x7A7D, 0x7A93, 0x7A9B, 0x7A9F, 0x7AA1, 0x7AA5],
  [0x7AED, 0x7AF5, 0x7AF9, 0x7B01, 0x7B17, 0x7B19, 0x7B1D, 0x7B2B, 0x7B35, 0x7B37, 0x7B3B, 0x7B4F, 0x7B55, 0x7B5F],
  [0x7B71, 0x7B77, 0x7B8B, 0x7B9B, 0x7BA1, 0x7BA9, 0x7BAF, 0x7BB3, 0x7BC7, 0x7BD3, 0x7BE9, 0x7BEB, 0x7BEF, 0x7BF1],
  [0x7BFD, 0x7C07, 0x7C19, 0x7C1B, 0x7C31, 0x7C37, 0x7C49, 0x7C67, 0x7C69, 0x7C73, 0x7C81, 0x7C8B, 0x7C93, 0x7CA3],
  [0x7CD5, 0x7CDB, 0x7CE5, 0x7CED, 0x7CF7, 0x7D03, 0x7D09, 0x7D1B, 0x7D1D, 0x7D33, 0x7D39, 0x7D3B, 0x7D3F, 0x7D45],
  [0x7D4D, 0x7D53, 0x7D59, 0x7D63, 0x7D75, 0x7D77, 0x7D8D, 0x7D8F, 0x7D9F, 0x7DAD, 0x7DB7, 0x7DBD, 0x7DBF, 0x7DCB],
  [0x7DD5, 0x7DE9, 0x7DED, 0x7DFB, 0x7E01, 0x7E05, 0x7E29, 0x7E2B, 0x7E2F, 0x7E35, 0x7E41, 0x7E43, 0x7E47, 0x7E55],
  [0x7E61, 0x7E67, 0x7E6B, 0x7E71, 0x7E73, 0x7E79, 0x7E7D, 0x7E91, 0x7E9B, 0x7E9D, 0x7EA7, 0x7EAD, 0x7EB9, 0x7EBB],
  [0x7ED3, 0x7EDF, 0x7EEB, 0x7EF1, 0x7EF7, 0x7EFB, 0x7F13, 0x7F15, 0x7F19, 0x7F31, 0x7F33, 0x7F39, 0x7F3D, 0x7F43],
  [0x7F4B, 0x7F5B, 0x7F61, 0x7F63, 0x7F6D, 0x7F79, 0x7F87, 0x7F8D, 0x7FAF, 0x7FB5, 0x7FC3, 0x7FC9, 0x7FCD, 0x7FCF],
  [0x7FED, 0x8003, 0x800B, 0x800F, 0x8015, 0x801D, 0x8021, 0x8023, 0x803F, 0x8041, 0x8047, 0x804B, 0x8065, 0x8077],
  [0x808D, 0x808F, 0x8095, 0x80A5, 0x80AB, 0x80AD, 0x80BD, 0x80C9, 0x80CB, 0x80D7, 0x80DB, 0x80E1, 0x80E7, 0x80F5],
  [0x80FF, 0x8105, 0x810D, 0x8119, 0x811D, 0x812F, 0x8131, 0x813B, 0x8143, 0x8153, 0x8159, 0x815F, 0x817D, 0x817F],
  [0x8189, 0x819B, 0x819D, 0x81A7, 0x81AF, 0x81B3, 0x81BB, 0x81C7, 0x81DF, 0x8207, 0x8209, 0x8215, 0x821F, 0x8225],
  [0x8231, 0x8233, 0x823F, 0x8243, 0x8245, 0x8249, 0x824F, 0x8261, 0x826F, 0x827B, 0x8281, 0x8285, 0x8293, 0x82B1],
  [0x82B5, 0x82BD, 0x82C7, 0x82CF, 0x82D5, 0x82DF, 0x82F1, 0x82F9, 0x82FD, 0x830B, 0x831B, 0x8321, 0x8329, 0x832D],
  [0x8333, 0x8335, 0x833F, 0x8341, 0x834D, 0x8351, 0x8353, 0x8357, 0x835D, 0x8365, 0x8369, 0x836F, 0x838F, 0x83A7],
  [0x83B1, 0x83B9, 0x83CB, 0x83D5, 0x83D7, 0x83DD, 0x83E7, 0x83E9, 0x83ED, 0x83FF, 0x8405, 0x8411, 0x8413, 0x8423],
  [0x8425, 0x843B, 0x8441, 0x8447, 0x844F, 0x8461, 0x8465, 0x8477, 0x8483, 0x848B, 0x8491, 0x8495, 0x84A9, 0x84AF],
  [0x84CD, 0x84E3, 0x84EF, 0x84F1, 0x84F7, 0x8509, 0x850D, 0x854B, 0x854F, 0x8551, 0x855D, 0x8563, 0x856D, 0x856F],
  [0x857B, 0x8587, 0x85A3, 0x85A5, 0x85A9, 0x85B7, 0x85CD, 0x85D3, 0x85D5, 0x85DB, 0x85E1, 0x85EB, 0x85F9, 0x85FD],
  [0x85FF, 0x8609, 0x860F, 0x8617, 0x8621, 0x862F, 0x8639, 0x863F, 0x8641, 0x864D, 0x8663, 0x8675, 0x867D, 0x8687],
  [0x8699, 0x86A5, 0x86A7, 0x86B3, 0x86B7, 0x86C3, 0x86C5, 0x86CF, 0x86D1, 0x86D7, 0x86E9, 0x86EF, 0x86F5, 0x8717],
  [0x871D, 0x871F, 0x872B, 0x872F, 0x8735, 0x8747, 0x8759, 0x875B, 0x876B, 0x8771, 0x8777, 0x877F, 0x8785, 0x878F],
  [0x87A1, 0x87A9, 0x87B3, 0x87BB, 0x87C5, 0x87C7, 0x87CB, 0x87DD, 0x87F7, 0x8803, 0x8819, 0x881B, 0x881F, 0x8821],
  [0x8837, 0x883D, 0x8843, 0x8851, 0x8861, 0x8867, 0x887B, 0x8885, 0x8891, 0x8893, 0x88A5, 0x88CF, 0x88D3, 0x88EB],
  [0x88ED, 0x88F3, 0x88FD, 0x8909, 0x890B, 0x8911, 0x891B, 0x8923, 0x8927, 0x892D, 0x8939, 0x8945, 0x894D, 0x8951],
  [0x8957, 0x8963, 0x8981, 0x8995, 0x899B, 0x89B3, 0x89B9, 0x89C3, 0x89CF, 0x89D1, 0x89DB, 0x89EF, 0x89F5, 0x89FB],
  [0x89FF, 0x8A0B, 0x8A19, 0x8A23, 0x8A35, 0x8A41, 0x8A49, 0x8A4F, 0x8A5B, 0x8A5F, 0x8A6D, 0x8A77, 0x8A79, 0x8A85],
  [0x8AA3, 0x8AB3, 0x8AB5, 0x8AC1, 0x8AC7, 0x8ACB, 0x8ACD, 0x8AD1, 0x8AD7, 0x8AF1, 0x8AF5, 0x8B07, 0x8B09, 0x8B0D],
  [0x8B13, 0x8B21, 0x8B57, 0x8B5D, 0x8B91, 0x8B93, 0x8BA3, 0x8BA9, 0x8BAF, 0x8BBB, 0x8BD5, 0x8BD9, 0x8BDB, 0x8BE1],
  [0x8BF7, 0x8BFD, 0x8BFF, 0x8C0B, 0x8C17, 0x8C1D, 0x8C27, 0x8C39, 0x8C3B, 0x8C47, 0x8C53, 0x8C5D, 0x8C6F, 0x8C7B],
  [0x8C81, 0x8C89, 0x8C8F, 0x8C99, 0x8C9F, 0x8CA7, 0x8CAB, 0x8CAD, 0x8CB1, 0x8CC5, 0x8CDD, 0x8CE3, 0x8CE9, 0x8CF3],
  [0x8D01, 0x8D0B, 0x8D0D, 0x8D23, 0x8D29, 0x8D37, 0x8D41, 0x8D5B, 0x8D5F, 0x8D71, 0x8D79, 0x8D85, 0x8D91, 0x8D9B],
  [0x8DA7, 0x8DAD, 0x8DB5, 0x8DC5, 0x8DCB, 0x8DD3, 0x8DD9, 0x8DDF, 0x8DF5, 0x8DF7, 0x8E01, 0x8E15, 0x8E1F, 0x8E25],
  [0x8E51, 0x8E63, 0x8E69, 0x8E73, 0x8E75, 0x8E79, 0x8E7F, 0x8E8D, 0x8E91, 0x8EAB, 0x8EAF, 0x8EB1, 0x8EBD, 0x8EC7],
  [0x8ECF, 0x8ED3, 0x8EDB, 0x8EE7, 0x8EEB, 0x8EF7, 0x8EFF, 0x8F15, 0x8F1D, 0x8F23, 0x8F2D, 0x8F3F, 0x8F45, 0x8F4B],
  [0x8F53, 0x8F59, 0x8F65, 0x8F69, 0x8F71, 0x8F83, 0x8F8D, 0x8F99, 0x8F9F, 0x8FAB, 0x8FAD, 0x8FB3, 0x8FB7, 0x8FB9],
  [0x8FC9, 0x8FD5, 0x8FE1, 0x8FEF, 0x8FF9, 0x9007, 0x900D, 0x9017, 0x9023, 0x9025, 0x9031, 0x9037, 0x903B, 0x9041],
  [0x9043, 0x904F, 0x9053, 0x906D, 0x9073, 0x9085, 0x908B, 0x9095, 0x909B, 0x909D, 0x90AF, 0x90B9, 0x90C1, 0x90C5],
  [0x90DF, 0x90E9, 0x90FD, 0x9103, 0x9113, 0x9127, 0x9133, 0x913D, 0x9145, 0x914F, 0x9151, 0x9161, 0x9167, 0x917B],
  [0x9185, 0x9199, 0x919D, 0x91BB, 0x91BD, 0x91C1, 0x91C9, 0x91D9, 0x91DB, 0x91ED, 0x91F1, 0x91F3, 0x91F9, 0x9203],
  [0x9215, 0x9221, 0x922F, 0x9241, 0x9247, 0x9257, 0x926B, 0x9271, 0x9275, 0x927D, 0x9283, 0x9287, 0x928D, 0x9299],
  [0x92A1, 0x92AB, 0x92AD, 0x92B9, 0x92BF, 0x92C3, 0x92C5, 0x92CB, 0x92D5, 0x92D7, 0x92E7, 0x92F3, 0x9301, 0x930B],
  [0x9311, 0x9319, 0x931F, 0x933B, 0x933D, 0x9343, 0x9355, 0x9373, 0x9395, 0x9397, 0x93A7, 0x93B3, 0x93B5, 0x93C7],
  [0x93D7, 0x93DD, 0x93E5, 0x93EF, 0x93F7, 0x9401, 0x9409, 0x9413, 0x943F, 0x9445, 0x944B, 0x944F, 0x9463, 0x9467],
  [0x9469, 0x946D, 0x947B, 0x9497, 0x949F, 0x94A5, 0x94B5, 0x94C3, 0x94E1, 0x94E7, 0x9505, 0x9509, 0x9517, 0x9521],
  [0x9527, 0x952D, 0x9535, 0x9539, 0x954B, 0x9557, 0x955D, 0x955F, 0x9575, 0x9581, 0x9589, 0x958F, 0x959B, 0x959F],
  [0x95AD, 0x95B1, 0x95B7, 0x95B9, 0x95BD, 0x95CF, 0x95E3, 0x95E9, 0x95F9, 0x961F, 0x962F, 0x9631, 0x9635, 0x963B],
  [0x963D, 0x9665, 0x968F, 0x969D, 0x96A1, 0x96A7, 0x96A9, 0x96C1, 0x96CB, 0x96D1, 0x96D3, 0x96E5, 0x96EF, 0x96FB],
  [0x96FD, 0x970D, 0x970F, 0x9715, 0x9725, 0x972B, 0x9733, 0x9737, 0x9739, 0x9743, 0x9749, 0x9751, 0x975B, 0x975D],
  [0x976F, 0x977F, 0x9787, 0x9793, 0x97A5, 0x97B1, 0x97B7, 0x97C3, 0x97CD, 0x97D3, 0x97D9, 0x97EB, 0x97F7, 0x9805],
  [0x9809, 0x980B, 0x9815, 0x9829, 0x982F, 0x983B, 0x9841, 0x9851, 0x986B, 0x986F, 0x9881, 0x9883, 0x9887, 0x98A7],
  [0x98B1, 0x98B9, 0x98BF, 0x98C3, 0x98C9, 0x98CF, 0x98DD, 0x98E3, 0x98F5, 0x98F9, 0x98FB, 0x990D, 0x9917, 0x991F],
  [0x9929, 0x9931, 0x993B, 0x993D, 0x9941, 0x9947, 0x9949, 0x9953, 0x997D, 0x9985, 0x9991, 0x9995, 0x999B, 0x99AD],
  [0x99AF, 0x99BF, 0x99C7, 0x99CB, 0x99CD, 0x99D7, 0x99E5, 0x99F1, 0x99FB, 0x9A0F, 0x9A13, 0x9A1B, 0x9A25, 0x9A4B],
  [0x9A4F, 0x9A55, 0x9A57, 0x9A61, 0x9A75, 0x9A7F, 0x9A8B, 0x9A91, 0x9A9D, 0x9AB7, 0x9AC3, 0x9AC7, 0x9ACF, 0x9AEB],
  [0x9AF3, 0x9AF7, 0x9AFF, 0x9B17, 0x9B1D, 0x9B27, 0x9B2F, 0x9B35, 0x9B45, 0x9B51, 0x9B59, 0x9B63, 0x9B6F, 0x9B77],
  [0x9B8D, 0x9B93, 0x9B95, 0x9B9F, 0x9BA1, 0x9BA7, 0x9BB1, 0x9BB7, 0x9BBD, 0x9BC5, 0x9BCB, 0x9BCF, 0x9BDD, 0x9BF9],
  [0x9C01, 0x9C11, 0x9C23, 0x9C2B, 0x9C2F, 0x9C35, 0x9C49, 0x9C4D, 0x9C5F, 0x9C65, 0x9C67, 0x9C7F, 0x9C97, 0x9C9D],
  [0x9CA3, 0x9CAF, 0x9CBB, 0x9CBF, 0x9CC1, 0x9CD7, 0x9CD9, 0x9CE3, 0x9CE9, 0x9CF1, 0x9CFD, 0x9D01, 0x9D15, 0x9D27],
  [0x9D2D, 0x9D31, 0x9D3D, 0x9D55, 0x9D5B, 0x9D61, 0x9D97, 0x9D9F, 0x9DA5, 0x9DA9, 0x9DC3, 0x9DE7, 0x9DEB, 0x9DED],
  [0x9DF1, 0x9E0B, 0x9E17, 0x9E23, 0x9E27, 0x9E2D, 0x9E33, 0x9E3B, 0x9E47, 0x9E51, 0x9E53, 0x9E5F, 0x9E6F, 0x9E81],
  [0x9E87, 0x9E8F, 0x9E95, 0x9EA1, 0x9EB3, 0x9EBD, 0x9EBF, 0x9EF5, 0x9EF9, 0x9EFB, 0x9F05, 0x9F23, 0x9F2F, 0x9F37],
  [0x9F3B, 0x9F43, 0x9F53, 0x9F61, 0x9F6D, 0x9F73, 0x9F77, 0x9F7D, 0x9F89, 0x9F8F, 0x9F91, 0x9F95, 0x9FA3, 0x9FAF],
  [0x9FB3, 0x9FC1, 0x9FC7, 0x9FDF, 0x9FE5, 0x9FEB, 0x9FF5, 0xA001, 0xA00D, 0xA021, 0xA033, 0xA039, 0xA03F, 0xA04F],
  [0xA057, 0xA05B, 0xA061, 0xA075, 0xA079, 0xA099, 0xA09D, 0xA0AB, 0xA0B5, 0xA0B7, 0xA0BD, 0xA0C9, 0xA0D9, 0xA0DB],
  [0xA0DF, 0xA0E5, 0xA0F1, 0xA0F3, 0xA0FD, 0xA105, 0xA10B, 0xA10F, 0xA111, 0xA11B, 0xA129, 0xA12F, 0xA135, 0xA141],
  [0xA153, 0xA175, 0xA17D, 0xA187, 0xA18D, 0xA1A5, 0xA1AB, 0xA1AD, 0xA1B7, 0xA1C3, 0xA1C5, 0xA1E3, 0xA1ED, 0xA1FB],
  [0xA207, 0xA213, 0xA223, 0xA229, 0xA22F, 0xA231, 0xA243, 0xA247, 0xA24D, 0xA26B, 0xA279, 0xA27D, 0xA283, 0xA289],
  [0xA28B, 0xA291, 0xA295, 0xA29B, 0xA2A9, 0xA2AF, 0xA2B3, 0xA2BB, 0xA2C5, 0xA2D1, 0xA2D7, 0xA2F7, 0xA301, 0xA309],
  [0xA31F, 0xA321, 0xA32B, 0xA331, 0xA349, 0xA351, 0xA355, 0xA373, 0xA379, 0xA37B, 0xA387, 0xA397, 0xA39F, 0xA3A5],
  [0xA3A9, 0xA3AF, 0xA3B7, 0xA3C7, 0xA3D5, 0xA3DB, 0xA3E1, 0xA3E5, 0xA3E7, 0xA3F1, 0xA3FD, 0xA3FF, 0xA40F, 0xA41D],
  [0xA421, 0xA423, 0xA427, 0xA43B, 0xA44D, 0xA457, 0xA459, 0xA463, 0xA469, 0xA475, 0xA493, 0xA49B, 0xA4AD, 0xA4B9],
  [0xA4C3, 0xA4C5, 0xA4CB, 0xA4D1, 0xA4D5, 0xA4E1, 0xA4ED, 0xA4EF, 0xA4F3, 0xA4FF, 0xA511, 0xA529, 0xA52B, 0xA535],
  [0xA53B, 0xA543, 0xA553, 0xA55B, 0xA561, 0xA56D, 0xA577, 0xA585, 0xA58B, 0xA597, 0xA59D, 0xA5A3, 0xA5A7, 0xA5A9],
  [0xA5C1, 0xA5C5, 0xA5CB, 0xA5D3, 0xA5D9, 0xA5DD, 0xA5DF, 0xA5E3, 0xA5E9, 0xA5F7, 0xA5FB, 0xA603, 0xA60D, 0xA625],
  [0xA63D, 0xA649, 0xA64B, 0xA651, 0xA65D, 0xA673, 0xA691, 0xA693, 0xA699, 0xA6AB, 0xA6B5, 0xA6BB, 0xA6C1, 0xA6C9],
  [0xA6CD, 0xA6CF, 0xA6D5, 0xA6DF, 0xA6E7, 0xA6F1, 0xA6F7, 0xA6FF, 0xA70F, 0xA715, 0xA723, 0xA729, 0xA72D, 0xA745],
  [0xA74D, 0xA757, 0xA759, 0xA765, 0xA76B, 0xA76F, 0xA793, 0xA795, 0xA7AB, 0xA7B1, 0xA7B9, 0xA7BF, 0xA7C9, 0xA7D1],
  [0xA7D7, 0xA7E3, 0xA7ED, 0xA7FB, 0xA805, 0xA80B, 0xA81D, 0xA829, 0xA82B, 0xA837, 0xA83B, 0xA855, 0xA85F, 0xA86D],
  [0xA87D, 0xA88F, 0xA897, 0xA8A9, 0xA8B5, 0xA8C1, 0xA8C7, 0xA8D7, 0xA8E5, 0xA8FD, 0xA907, 0xA913, 0xA91B, 0xA931],
  [0xA937, 0xA939, 0xA943, 0xA97F, 0xA985, 0xA987, 0xA98B, 0xA993, 0xA9A3, 0xA9B1, 0xA9BB, 0xA9C1, 0xA9D9, 0xA9DF],
  [0xA9EB, 0xA9FD, 0xAA15, 0xAA17, 0xAA35, 0xAA39, 0xAA3B, 0xAA47, 0xAA4D, 0xAA57, 0xAA59, 0xAA5D, 0xAA6B, 0xAA71],
  [0xAA81, 0xAA83, 0xAA8D, 0xAA95, 0xAAAB, 0xAABF, 0xAAC5, 0xAAC9, 0xAAE9, 0xAAEF, 0xAB01, 0xAB05, 0xAB07, 0xAB0B],
  [0xAB0D, 0xAB11, 0xAB19, 0xAB4D, 0xAB5B, 0xAB71, 0xAB73, 0xAB89, 0xAB9D, 0xABA7, 0xABAF, 0xABB9, 0xABBB, 0xABC1],
  [0xABC5, 0xABD3, 0xABD7, 0xABDD, 0xABF1, 0xABF5, 0xABFB, 0xABFD, 0xAC09, 0xAC15, 0xAC1B, 0xAC27, 0xAC37, 0xAC39],
  [0xAC45, 0xAC4F, 0xAC57, 0xAC5B, 0xAC61, 0xAC63, 0xAC7F, 0xAC8B, 0xAC93, 0xAC9D, 0xACA9, 0xACAB, 0xACAF, 0xACBD],
  [0xACD9, 0xACE1, 0xACE7, 0xACEB, 0xACED, 0xACF1, 0xACF7, 0xACF9, 0xAD05, 0xAD3F, 0xAD45, 0xAD53, 0xAD5D, 0xAD5F],
  [0xAD65, 0xAD81, 0xADA1, 0xADA5, 0xADC3, 0xADCB, 0xADD1, 0xADD5, 0xADDB, 0xADE7, 0xADF3, 0xADF5, 0xADF9, 0xADFF],
  [0xAE05, 0xAE13, 0xAE23, 0xAE2B, 0xAE49, 0xAE4D, 0xAE4F, 0xAE59, 0xAE61, 0xAE67, 0xAE6B, 0xAE71, 0xAE8B, 0xAE8F],
  [0xAE9B, 0xAE9D, 0xAEA7, 0xAEB9, 0xAEC5, 0xAED1, 0xAEE3, 0xAEE5, 0xAEE9, 0xAEF5, 0xAEFD, 0xAF09, 0xAF13, 0xAF27],
  [0xAF2B, 0xAF33, 0xAF43, 0xAF4F, 0xAF57, 0xAF5D, 0xAF6D, 0xAF75, 0xAF7F, 0xAF8B, 0xAF99, 0xAF9F, 0xAFA3, 0xAFAB],
  [0xAFB7, 0xAFBB, 0xAFCF, 0xAFD5, 0xAFFD, 0xB005, 0xB015, 0xB01B, 0xB03F, 0xB041, 0xB047, 0xB04B, 0xB051, 0xB053],
  [0xB069, 0xB07B, 0xB07D, 0xB087, 0xB08D, 0xB0B1, 0xB0BF, 0xB0CB, 0xB0CF, 0xB0E1, 0xB0E9, 0xB0ED, 0xB0FB, 0xB105],
  [0xB107, 0xB111, 0xB119, 0xB11D, 0xB11F, 0xB131, 0xB141, 0xB14D, 0xB15B, 0xB165, 0xB173, 0xB179, 0xB17F, 0xB1A9],
  [0xB1B3, 0xB1B9, 0xB1BF, 0xB1D3, 0xB1DD, 0xB1E5, 0xB1F1, 0xB1F5, 0xB201, 0xB213, 0xB215, 0xB21F, 0xB22D, 0xB23F],
  [0xB249, 0xB25B, 0xB263, 0xB269, 0xB26D, 0xB27B, 0xB281, 0xB28B, 0xB2A9, 0xB2B7, 0xB2BD, 0xB2C3, 0xB2C7, 0xB2D3],
  [0xB2F9, 0xB2FD, 0xB2FF, 0xB303, 0xB309, 0xB311, 0xB31D, 0xB327, 0xB32D, 0xB33F, 0xB345, 0xB377, 0xB37D, 0xB381],
  [0xB387, 0xB393, 0xB39B, 0xB3A5, 0xB3C5, 0xB3CB, 0xB3E1, 0xB3E3, 0xB3ED, 0xB3F9, 0xB40B, 0xB40D, 0xB413, 0xB417],
  [0xB435, 0xB43D, 0xB443, 0xB449, 0xB45B, 0xB465, 0xB467, 0xB46B, 0xB477, 0xB48B, 0xB495, 0xB49D, 0xB4B5, 0xB4BF],
  [0xB4C1, 0xB4C7, 0xB4DD, 0xB4E3, 0xB4E5, 0xB4F7, 0xB501, 0xB50D, 0xB50F, 0xB52D, 0xB53F, 0xB54B, 0xB567, 0xB569],
  [0xB56F, 0xB573, 0xB579, 0xB587, 0xB58D, 0xB599, 0xB5A3, 0xB5AB, 0xB5AF, 0xB5BB, 0xB5D5, 0xB5DF, 0xB5E7, 0xB5ED],
  [0xB5FD, 0xB5FF, 0xB609, 0xB61B, 0xB629, 0xB62F, 0xB633, 0xB639, 0xB647, 0xB657, 0xB659, 0xB65F, 0xB663, 0xB66F],
  [0xB683, 0xB687, 0xB69B, 0xB69F, 0xB6A5, 0xB6B1, 0xB6B3, 0xB6D7, 0xB6DB, 0xB6E1, 0xB6E3, 0xB6ED, 0xB6EF, 0xB705],
  [0xB70D, 0xB713, 0xB71D, 0xB729, 0xB735, 0xB747, 0xB755, 0xB76D, 0xB791, 0xB795, 0xB7A9, 0xB7C1, 0xB7CB, 0xB7D1],
  [0xB7D3, 0xB7EF, 0xB7F5, 0xB807, 0xB80F, 0xB813, 0xB819, 0xB821, 0xB827, 0xB82B, 0xB82D, 0xB839, 0xB855, 0xB867],
  [0xB875, 0xB885, 0xB893, 0xB8A5, 0xB8AF, 0xB8B7, 0xB8BD, 0xB8C1, 0xB8C7, 0xB8CD, 0xB8D5, 0xB8EB, 0xB8F7, 0xB8F9],
  [0xB903, 0xB915, 0xB91B, 0xB91D, 0xB92F, 0xB939, 0xB93B, 0xB947, 0xB951, 0xB963, 0xB983, 0xB989, 0xB98D, 0xB993],
  [0xB999, 0xB9A1, 0xB9A7, 0xB9AD, 0xB9B7, 0xB9CB, 0xB9D1, 0xB9DD, 0xB9E7, 0xB9EF, 0xB9F9, 0xBA07, 0xBA0D, 0xBA17],
  [0xBA25, 0xBA29, 0xBA2B, 0xBA41, 0xBA53, 0xBA55, 0xBA5F, 0xBA61, 0xBA65, 0xBA79, 0xBA7D, 0xBA7F, 0xBAA1, 0xBAA3],
  [0xBAAF, 0xBAB5, 0xBABF, 0xBAC1, 0xBACB, 0xBADD, 0xBAE3, 0xBAF1, 0xBAFD, 0xBB09, 0xBB1F, 0xBB27, 0xBB2D, 0xBB3D],
  [0xBB43, 0xBB4B, 0xBB4F, 0xBB5B, 0xBB61, 0xBB69, 0xBB6D, 0xBB91, 0xBB97, 0xBB9D, 0xBBB1, 0xBBC9, 0xBBCF, 0xBBDB],
  [0xBBED, 0xBBF7, 0xBBF9, 0xBC03, 0xBC1D, 0xBC23, 0xBC33, 0xBC3B, 0xBC41, 0xBC45, 0xBC5D, 0xBC6F, 0xBC77, 0xBC83],
  [0xBC8F, 0xBC99, 0xBCAB, 0xBCB7, 0xBCB9, 0xBCD1, 0xBCD5, 0xBCE1, 0xBCF3, 0xBCFF, 0xBD0D, 0xBD17, 0xBD19, 0xBD1D],
  [0xBD35, 0xBD41, 0xBD4F, 0xBD59, 0xBD5F, 0xBD61, 0xBD67, 0xBD6B, 0xBD71, 0xBD8B, 0xBD8F, 0xBD95, 0xBD9B, 0xBD9D],
  [0xBDB3, 0xBDBB, 0xBDCD, 0xBDD1, 0xBDE3, 0xBDEB, 0xBDEF, 0xBE07, 0xBE09, 0xBE15, 0xBE21, 0xBE25, 0xBE27, 0xBE5B],
  [0xBE5D, 0xBE6F, 0xBE75, 0xBE79, 0xBE7F, 0xBE8B, 0xBE8D, 0xBE93, 0xBE9F, 0xBEA9, 0xBEB1, 0xBEB5, 0xBEB7, 0xBECF],
  [0xBED9, 0xBEDB, 0xBEE5, 0xBEE7, 0xBEF3, 0xBEF9, 0xBF0B, 0xBF33, 0xBF39, 0xBF4D, 0xBF5D, 0xBF5F, 0xBF6B, 0xBF71],
  [0xBF7B, 0xBF87, 0xBF89, 0xBF8D, 0xBF93, 0xBFA1, 0xBFAD, 0xBFB9, 0xBFCF, 0xBFD5, 0xBFDD, 0xBFE1, 0xBFE3, 0xBFF3],
  [0xC005, 0xC011, 0xC013, 0xC019, 0xC029, 0xC02F, 0xC031, 0xC037, 0xC03B, 0xC047, 0xC065, 0xC06D, 0xC07D, 0xC07F],
  [0xC091, 0xC09B, 0xC0B3, 0xC0B5, 0xC0BB, 0xC0D3, 0xC0D7, 0xC0D9, 0xC0EF, 0xC0F1, 0xC101, 0xC103, 0xC109, 0xC115],
  [0xC119, 0xC12B, 0xC133, 0xC137, 0xC145, 0xC149, 0xC15B, 0xC173, 0xC179, 0xC17B, 0xC181, 0xC18B, 0xC18D, 0xC197],
  [0xC1BD, 0xC1C3, 0xC1CD, 0xC1DB, 0xC1E1, 0xC1E7, 0xC1FF, 0xC203, 0xC205, 0xC211, 0xC221, 0xC22F, 0xC23F, 0xC24B],
  [0xC24D, 0xC253, 0xC25D, 0xC277, 0xC27B, 0xC27D, 0xC289, 0xC28F, 0xC293, 0xC29F, 0xC2A7, 0xC2B3, 0xC2BD, 0xC2CF],
  [0xC2D5, 0xC2E3, 0xC2FF, 0xC301, 0xC307, 0xC311, 0xC313, 0xC317, 0xC325, 0xC347, 0xC349, 0xC34F, 0xC365, 0xC367],
  [0xC371, 0xC37F, 0xC383, 0xC385, 0xC395, 0xC39D, 0xC3A7, 0xC3AD, 0xC3B5, 0xC3BF, 0xC3C7, 0xC3CB, 0xC3D1, 0xC3D3],
  [0xC3E3, 0xC3E9, 0xC3EF, 0xC401, 0xC41F, 0xC42D, 0xC433, 0xC437, 0xC455, 0xC457, 0xC461, 0xC46F, 0xC473, 0xC487],
  [0xC491, 0xC499, 0xC49D, 0xC4A5, 0xC4B7, 0xC4BB, 0xC4C9, 0xC4CF, 0xC4D3, 0xC4EB, 0xC4F1, 0xC4F7, 0xC509, 0xC51B],
  [0xC51D, 0xC541, 0xC547, 0xC551, 0xC55F, 0xC56B, 0xC56F, 0xC575, 0xC577, 0xC595, 0xC59B, 0xC59F, 0xC5A1, 0xC5A7],
  [0xC5C3, 0xC5D7, 0xC5DB, 0xC5EF, 0xC5FB, 0xC613, 0xC623, 0xC635, 0xC641, 0xC64F, 0xC655, 0xC659, 0xC665, 0xC685],
  [0xC691, 0xC697, 0xC6A1, 0xC6A9, 0xC6B3, 0xC6B9, 0xC6CB, 0xC6CD, 0xC6DD, 0xC6EB, 0xC6F1, 0xC707, 0xC70D, 0xC719],
  [0xC71B, 0xC72D, 0xC731, 0xC739, 0xC757, 0xC763, 0xC767, 0xC773, 0xC775, 0xC77F, 0xC7A5, 0xC7BB, 0xC7BD, 0xC7C1],
  [0xC7CF, 0xC7D5, 0xC7E1, 0xC7F9, 0xC7FD, 0xC7FF, 0xC803, 0xC811, 0xC81D, 0xC827, 0xC829, 0xC839, 0xC83F, 0xC853],
  [0xC857, 0xC86B, 0xC881, 0xC88D, 0xC88F, 0xC893, 0xC895, 0xC8A1, 0xC8B7, 0xC8CF, 0xC8D5, 0xC8DB, 0xC8DD, 0xC8E3],
  [0xC8E7, 0xC8ED, 0xC8EF, 0xC8F9, 0xC905, 0xC911, 0xC917, 0xC919, 0xC91F, 0xC92F, 0xC937, 0xC93D, 0xC941, 0xC953],
  [0xC95F, 0xC96B, 0xC979, 0xC97D, 0xC989, 0xC98F, 0xC997, 0xC99D, 0xC9AF, 0xC9B5, 0xC9BF, 0xC9CB, 0xC9D9, 0xC9DF],
  [0xC9E3, 0xC9EB, 0xCA01, 0xCA07, 0xCA09, 0xCA25, 0xCA37, 0xCA39, 0xCA4B, 0xCA55, 0xCA5B, 0xCA69, 0xCA73, 0xCA75],
  [0xCA7F, 0xCA8D, 0xCA93, 0xCA9D, 0xCA9F, 0xCAB5, 0xCABB, 0xCAC3, 0xCAC9, 0xCAD9, 0xCAE5, 0xCAED, 0xCB03, 0xCB05],
  [0xCB09, 0xCB17, 0xCB29, 0xCB35, 0xCB3B, 0xCB53, 0xCB59, 0xCB63, 0xCB65, 0xCB71, 0xCB87, 0xCB99, 0xCB9F, 0xCBB3],
  [0xCBB9, 0xCBC3, 0xCBD1, 0xCBD5, 0xCBD7, 0xCBDD, 0xCBE9, 0xCBFF, 0xCC0D, 0xCC19, 0xCC1D, 0xCC23, 0xCC2B, 0xCC41],
  [0xCC43, 0xCC4D, 0xCC59, 0xCC61, 0xCC89, 0xCC8B, 0xCC91, 0xCC9B, 0xCCA3, 0xCCA7, 0xCCD1, 0xCCE5, 0xCCE9, 0xCD09],
  [0xCD15, 0xCD1F, 0xCD25, 0xCD31, 0xCD3D, 0xCD3F, 0xCD49, 0xCD51, 0xCD57, 0xCD5B, 0xCD63, 0xCD67, 0xCD81, 0xCD93],
  [0xCD97, 0xCD9F, 0xCDBB, 0xCDC1, 0xCDD3, 0xCDD9, 0xCDE5, 0xCDE7, 0xCDF1, 0xCDF7, 0xCDFD, 0xCE0B, 0xCE15, 0xCE21],
  [0xCE2F, 0xCE47, 0xCE4D, 0xCE51, 0xCE65, 0xCE7B, 0xCE7D, 0xCE8F, 0xCE93, 0xCE99, 0xCEA5, 0xCEA7, 0xCEB7, 0xCEC9],
  [0xCED7, 0xCEDD, 0xCEE3, 0xCEE7, 0xCEED, 0xCEF5, 0xCF07, 0xCF0B, 0xCF19, 0xCF37, 0xCF3B, 0xCF4D, 0xCF55, 0xCF5F],
  [0xCF61, 0xCF65, 0xCF6D, 0xCF79, 0xCF7D, 0xCF89, 0xCF9B, 0xCF9D, 0xCFA9, 0xCFB3, 0xCFB5, 0xCFC5, 0xCFCD, 0xCFD1],
  [0xCFEF, 0xCFF1, 0xCFF7, 0xD013, 0xD015, 0xD01F, 0xD021, 0xD033, 0xD03D, 0xD04B, 0xD04F, 0xD069, 0xD06F, 0xD081],
  [0xD085, 0xD099, 0xD09F, 0xD0A3, 0xD0AB, 0xD0BD, 0xD0C1, 0xD0CD, 0xD0E7, 0xD0FF, 0xD103, 0xD117, 0xD12D, 0xD12F],
  [0xD141, 0xD157, 0xD159, 0xD15D, 0xD169, 0xD16B, 0xD171, 0xD177, 0xD17D, 0xD181, 0xD187, 0xD195, 0xD199, 0xD1B1],
  [0xD1BD, 0xD1C3, 0xD1D5, 0xD1D7, 0xD1E3, 0xD1FF, 0xD20D, 0xD211, 0xD217, 0xD21F, 0xD235, 0xD23B, 0xD247, 0xD259],
  [0xD261, 0xD265, 0xD279, 0xD27F, 0xD283, 0xD289, 0xD28B, 0xD29D, 0xD2A3, 0xD2A7, 0xD2B3, 0xD2BF, 0xD2C7, 0xD2E3],
  [0xD2E9, 0xD2F1, 0xD2FB, 0xD2FD, 0xD315, 0xD321, 0xD32B, 0xD343, 0xD34B, 0xD355, 0xD369, 0xD375, 0xD37B, 0xD387],
  [0xD393, 0xD397, 0xD3A5, 0xD3B1, 0xD3C9, 0xD3EB, 0xD3FD, 0xD405, 0xD40F, 0xD415, 0xD427, 0xD42F, 0xD433, 0xD43B],
  [0xD44B, 0xD459, 0xD45F, 0xD463, 0xD469, 0xD481, 0xD483, 0xD489, 0xD48D, 0xD493, 0xD495, 0xD4A5, 0xD4AB, 0xD4B1],
  [0xD4C5, 0xD4DD, 0xD4E1, 0xD4E3, 0xD4E7, 0xD4F5, 0xD4F9, 0xD50B, 0xD50D, 0xD513, 0xD51F, 0xD523, 0xD531, 0xD535],
  [0xD537, 0xD549, 0xD559, 0xD55F, 0xD565, 0xD567, 0xD577, 0xD58B, 0xD591, 0xD597, 0xD5B5, 0xD5B9, 0xD5C1, 0xD5C7],
  [0xD5DF, 0xD5EF, 0xD5F5, 0xD5FB, 0xD603, 0xD60F, 0xD62D, 0xD631, 0xD643, 0xD655, 0xD65D, 0xD661, 0xD67B, 0xD685],
  [0xD687, 0xD69D, 0xD6A5, 0xD6AF, 0xD6BD, 0xD6C3, 0xD6C7, 0xD6D9, 0xD6E1, 0xD6ED, 0xD709, 0xD70B, 0xD711, 0xD715],
  [0xD721, 0xD727, 0xD73F, 0xD745, 0xD74D, 0xD757, 0xD76B, 0xD77B, 0xD783, 0xD7A1, 0xD7A7, 0xD7AD, 0xD7B1, 0xD7B3],
  [0xD7BD, 0xD7CB, 0xD7D1, 0xD7DB, 0xD7FB, 0xD811, 0xD823, 0xD825, 0xD829, 0xD82B, 0xD82F, 0xD837, 0xD84D, 0xD855],
  [0xD867, 0xD873, 0xD88F, 0xD891, 0xD8A1, 0xD8AD, 0xD8BF, 0xD8CD, 0xD8D7, 0xD8E9, 0xD8F5, 0xD8FB, 0xD91B, 0xD925],
  [0xD933, 0xD939, 0xD943, 0xD945, 0xD94F, 0xD951, 0xD957, 0xD96D, 0xD96F, 0xD973, 0xD979, 0xD981, 0xD98B, 0xD991],
  [0xD99F, 0xD9A5, 0xD9A9, 0xD9B5, 0xD9D3, 0xD9EB, 0xD9F1, 0xD9F7, 0xD9FF, 0xDA05, 0xDA09, 0xDA0B, 0xDA0F, 0xDA15],
  [0xDA1D, 0xDA23, 0xDA29, 0xDA3F, 0xDA51, 0xDA59, 0xDA5D, 0xDA5F, 0xDA71, 0xDA77, 0xDA7B, 0xDA7D, 0xDA8D, 0xDA9F],
  [0xDAB3, 0xDABD, 0xDAC3, 0xDAC9, 0xDAE7, 0xDAE9, 0xDAF5, 0xDB11, 0xDB17, 0xDB1D, 0xDB23, 0xDB25, 0xDB31, 0xDB3B],
  [0xDB43, 0xDB55, 0xDB67, 0xDB6B, 0xDB73, 0xDB85, 0xDB8F, 0xDB91, 0xDBAD, 0xDBAF, 0xDBB9, 0xDBC7, 0xDBCB, 0xDBCD],
  [0xDBEB, 0xDBF7, 0xDC0D, 0xDC27, 0xDC31, 0xDC39, 0xDC3F, 0xDC49, 0xDC51, 0xDC61, 0xDC6F, 0xDC75, 0xDC7B, 0xDC85],
  [0xDC93, 0xDC99, 0xDC9D, 0xDC9F, 0xDCA9, 0xDCB5, 0xDCB7, 0xDCBD, 0xDCC7, 0xDCCF, 0xDCD3, 0xDCD5, 0xDCDF, 0xDCF9],
  [0xDD0F, 0xDD15, 0xDD17, 0xDD23, 0xDD35, 0xDD39, 0xDD53, 0xDD57, 0xDD5F, 0xDD69, 0xDD6F, 0xDD7D, 0xDD87, 0xDD89],
  [0xDD9B, 0xDDA1, 0xDDAB, 0xDDBF, 0xDDC5, 0xDDCB, 0xDDCF, 0xDDE7, 0xDDE9, 0xDDED, 0xDDF5, 0xDDFB, 0xDE0B, 0xDE19],
  [0xDE29, 0xDE3B, 0xDE3D, 0xDE41, 0xDE4D, 0xDE4F, 0xDE59, 0xDE5B, 0xDE61, 0xDE6D, 0xDE77, 0xDE7D, 0xDE83, 0xDE97],
  [0xDE9D, 0xDEA1, 0xDEA7, 0xDECD, 0xDED1, 0xDED7, 0xDEE3, 0xDEF1, 0xDEF5, 0xDF01, 0xDF09, 0xDF13, 0xDF1F, 0xDF2B],
  [0xDF33, 0xDF37, 0xDF3D, 0xDF4B, 0xDF55, 0xDF5B, 0xDF67, 0xDF69, 0xDF73, 0xDF85, 0xDF87, 0xDF99, 0xDFA3, 0xDFAB],
  [0xDFB5, 0xDFB7, 0xDFC3, 0xDFC7, 0xDFD5, 0xDFF1, 0xDFF3, 0xE003, 0xE005, 0xE017, 0xE01D, 0xE027, 0xE02D, 0xE035],
  [0xE045, 0xE053, 0xE071, 0xE07B, 0xE08F, 0xE095, 0xE09F, 0xE0B7, 0xE0B9, 0xE0D5, 0xE0D7, 0xE0E3, 0xE0F3, 0xE0F9],
  [0xE101, 0xE125, 0xE129, 0xE131, 0xE135, 0xE143, 0xE14F, 0xE159, 0xE161, 0xE16D, 0xE171, 0xE177, 0xE17F, 0xE183],
  [0xE189, 0xE197, 0xE1AD, 0xE1B5, 0xE1BB, 0xE1BF, 0xE1C1, 0xE1CB, 0xE1D1, 0xE1E5, 0xE1EF, 0xE1F7, 0xE1FD, 0xE203],
  [0xE219, 0xE22B, 0xE22D, 0xE23D, 0xE243, 0xE257, 0xE25B, 0xE275, 0xE279, 0xE287, 0xE29D, 0xE2AB, 0xE2AF, 0xE2BB],
  [0xE2C1, 0xE2C9, 0xE2CD, 0xE2D3, 0xE2D9, 0xE2F3, 0xE2FD, 0xE2FF, 0xE311, 0xE323, 0xE327, 0xE329, 0xE339, 0xE33B],
  [0xE34D, 0xE351, 0xE357, 0xE35F, 0xE363, 0xE369, 0xE375, 0xE377, 0xE37D, 0xE383, 0xE39F, 0xE3C5, 0xE3C9, 0xE3D1],
  [0xE3E1, 0xE3FB, 0xE3FF, 0xE401, 0xE40B, 0xE417, 0xE419, 0xE423, 0xE42B, 0xE431, 0xE43B, 0xE447, 0xE449, 0xE453],
  [0xE455, 0xE46D, 0xE471, 0xE48F, 0xE4A9, 0xE4AF, 0xE4B5, 0xE4C7, 0xE4CD, 0xE4D3, 0xE4E9, 0xE4EB, 0xE4F5, 0xE507],
  [0xE521, 0xE525, 0xE537, 0xE53F, 0xE545, 0xE54B, 0xE557, 0xE567, 0xE56D, 0xE575, 0xE585, 0xE58B, 0xE593, 0xE5A3],
  [0xE5A5, 0xE5CF, 0xE609, 0xE611, 0xE615, 0xE61B, 0xE61D, 0xE621, 0xE629, 0xE639, 0xE63F, 0xE653, 0xE657, 0xE663],
  [0xE66F, 0xE675, 0xE681, 0xE683, 0xE68D, 0xE68F, 0xE695, 0xE6AB, 0xE6AD, 0xE6B7, 0xE6BD, 0xE6C5, 0xE6CB, 0xE6D5],
  [0xE6E3, 0xE6E9, 0xE6EF, 0xE6F3, 0xE705, 0xE70D, 0xE717, 0xE71F, 0xE72F, 0xE73D, 0xE747, 0xE749, 0xE753, 0xE755],
  [0xE761, 0xE767, 0xE76B, 0xE77F, 0xE789, 0xE791, 0xE7C5, 0xE7CD, 0xE7D7, 0xE7DD, 0xE7DF, 0xE7E9, 0xE7F1, 0xE7FB],
  [0xE801, 0xE807, 0xE80F, 0xE819, 0xE81B, 0xE831, 0xE833, 0xE837, 0xE83D, 0xE84B, 0xE84F, 0xE851, 0xE869, 0xE875],
  [0xE879, 0xE893, 0xE8A5, 0xE8A9, 0xE8AF, 0xE8BD, 0xE8DB, 0xE8E1, 0xE8E5, 0xE8EB, 0xE8ED, 0xE903, 0xE90B, 0xE90F],
  [0xE915, 0xE917, 0xE92D, 0xE933, 0xE93B, 0xE94B, 0xE951, 0xE95F, 0xE963, 0xE969, 0xE97B, 0xE983, 0xE98F, 0xE995],
  [0xE9A1, 0xE9B9, 0xE9D7, 0xE9E7, 0xE9EF, 0xEA11, 0xEA19, 0xEA2F, 0xEA35, 0xEA43, 0xEA4D, 0xEA5F, 0xEA6D, 0xEA71],
  [0xEA7D, 0xEA85, 0xEA89, 0xEAAD, 0xEAB3, 0xEAB9, 0xEABB, 0xEAC5, 0xEAC7, 0xEACB, 0xEADF, 0xEAE5, 0xEAEB, 0xEAF5],
  [0xEB01, 0xEB07, 0xEB09, 0xEB31, 0xEB39, 0xEB3F, 0xEB5B, 0xEB61, 0xEB63, 0xEB6F, 0xEB81, 0xEB85, 0xEB9D, 0xEBAB],
  [0xEBB1, 0xEBB7, 0xEBC1, 0xEBD5, 0xEBDF, 0xEBED, 0xEBFD, 0xEC0B, 0xEC1B, 0xEC21, 0xEC29, 0xEC4D, 0xEC51, 0xEC5D],
  [0xEC69, 0xEC6F, 0xEC7B, 0xECAD, 0xECB9, 0xECBF, 0xECC3, 0xECC9, 0xECCF, 0xECD7, 0xECDD, 0xECE7, 0xECE9, 0xECF3],
  [0xECF5, 0xED07, 0xED11, 0xED1F, 0xED2F, 0xED37, 0xED3D, 0xED41, 0xED55, 0xED59, 0xED5B, 0xED65, 0xED6B, 0xED79],
  [0xED8B, 0xED95, 0xEDBB, 0xEDC5, 0xEDD7, 0xEDD9, 0xEDE3, 0xEDE5, 0xEDF1, 0xEDF5, 0xEDF7, 0xEDFB, 0xEE09, 0xEE0F],
  [0xEE19, 0xEE21, 0xEE49, 0xEE4F, 0xEE63, 0xEE67, 0xEE73, 0xEE7B, 0xEE81, 0xEEA3, 0xEEAB, 0xEEC1, 0xEEC9, 0xEED5],
  [0xEEDF, 0xEEE1, 0xEEF1, 0xEF1B, 0xEF27, 0xEF2F, 0xEF45, 0xEF4D, 0xEF63, 0xEF6B, 0xEF71, 0xEF93, 0xEF95, 0xEF9B],
  [0xEF9F, 0xEFAD, 0xEFB3, 0xEFC3, 0xEFC5, 0xEFDB, 0xEFE1, 0xEFE9, 0xF001, 0xF017, 0xF01D, 0xF01F, 0xF02B, 0xF02F],
  [0xF035, 0xF043, 0xF047, 0xF04F, 0xF067, 0xF06B, 0xF071, 0xF077, 0xF079, 0xF08F, 0xF0A3, 0xF0A9, 0xF0AD, 0xF0BB],
  [0xF0BF, 0xF0C5, 0xF0CB, 0xF0D3, 0xF0D9, 0xF0E3, 0xF0E9, 0xF0F1, 0xF0F7, 0xF107, 0xF115, 0xF11B, 0xF121, 0xF137],
  [0xF13D, 0xF155, 0xF175, 0xF17B, 0xF18D, 0xF193, 0xF1A5, 0xF1AF, 0xF1B7, 0xF1D5, 0xF1E7, 0xF1ED, 0xF1FD, 0xF209],
  [0xF20F, 0xF21B, 0xF21D, 0xF223, 0xF227, 0xF233, 0xF23B, 0xF241, 0xF257, 0xF25F, 0xF265, 0xF269, 0xF277, 0xF281],
  [0xF293, 0xF2A7, 0xF2B1, 0xF2B3, 0xF2B9, 0xF2BD, 0xF2BF, 0xF2DB, 0xF2ED, 0xF2EF, 0xF2F9, 0xF2FF, 0xF305, 0xF30B],
  [0xF319, 0xF341, 0xF359, 0xF35B, 0xF35F, 0xF367, 0xF373, 0xF377, 0xF38B, 0xF38F, 0xF3AF, 0xF3C1, 0xF3D1, 0xF3D7],
  [0xF3FB, 0xF403, 0xF409, 0xF40D, 0xF413, 0xF421, 0xF425, 0xF42B, 0xF445, 0xF44B, 0xF455, 0xF463, 0xF475, 0xF47F],
  [0xF485, 0xF48B, 0xF499, 0xF4A3, 0xF4A9, 0xF4AF, 0xF4BD, 0xF4C3, 0xF4DB, 0xF4DF, 0xF4ED, 0xF503, 0xF50B, 0xF517],
  [0xF521, 0xF529, 0xF535, 0xF547, 0xF551, 0xF563, 0xF56B, 0xF583, 0xF58D, 0xF595, 0xF599, 0xF5B1, 0xF5B7, 0xF5C9],
  [0xF5CF, 0xF5D1, 0xF5DB, 0xF5F9, 0xF5FB, 0xF605, 0xF607, 0xF60B, 0xF60D, 0xF635, 0xF637, 0xF653, 0xF65B, 0xF661],
  [0xF667, 0xF679, 0xF67F, 0xF689, 0xF697, 0xF69B, 0xF6AD, 0xF6CB, 0xF6DD, 0xF6DF, 0xF6EB, 0xF709, 0xF70F, 0xF72D],
  [0xF731, 0xF743, 0xF74F, 0xF751, 0xF755, 0xF763, 0xF769, 0xF773, 0xF779, 0xF781, 0xF787, 0xF791, 0xF79D, 0xF79F],
  [0xF7A5, 0xF7B1, 0xF7BB, 0xF7BD, 0xF7CF, 0xF7D3, 0xF7E7, 0xF7EB, 0xF7F1, 0xF7FF, 0xF805, 0xF80B, 0xF821, 0xF827],
  [0xF82D, 0xF835, 0xF847, 0xF859, 0xF863, 0xF865, 0xF86F, 0xF871, 0xF877, 0xF87B, 0xF881, 0xF88D, 0xF89F, 0xF8A1],
  [0xF8AB, 0xF8B3, 0xF8B7, 0xF8C9, 0xF8CB, 0xF8D1, 0xF8D7, 0xF8DD, 0xF8E7, 0xF8EF, 0xF8F9, 0xF8FF, 0xF911, 0xF91D],
  [0xF925, 0xF931, 0xF937, 0xF93B, 0xF941, 0xF94F, 0xF95F, 0xF961, 0xF96D, 0xF971, 0xF977, 0xF99D, 0xF9A3, 0xF9A9],
  [0xF9B9, 0xF9CD, 0xF9E9, 0xF9FD, 0xFA07, 0xFA0D, 0xFA13, 0xFA21, 0xFA25, 0xFA3F, 0xFA43, 0xFA51, 0xFA5B, 0xFA6D],
  [0xFA7B, 0xFA97, 0xFA99, 0xFA9D, 0xFAAB, 0xFABB, 0xFABD, 0xFAD9, 0xFADF, 0xFAE7, 0xFAED, 0xFB0F, 0xFB17, 0xFB1B],
  [0xFB2D, 0xFB2F, 0xFB3F, 0xFB47, 0xFB4D, 0xFB75, 0xFB7D, 0xFB8F, 0xFB93, 0xFBB1, 0xFBB7, 0xFBC3, 0xFBC5, 0xFBE3],
  [0xFBE9, 0xFBF3, 0xFC01, 0xFC29, 0xFC37, 0xFC41, 0xFC43, 0xFC4F, 0xFC59, 0xFC61, 0xFC65, 0xFC6D, 0xFC73, 0xFC79],
  [0xFC95, 0xFC97, 0xFC9B, 0xFCA7, 0xFCB5, 0xFCC5, 0xFCCD, 0xFCEB, 0xFCFB, 0xFD0D, 0xFD0F, 0xFD19, 0xFD2B, 0xFD31],
  [0xFD51, 0xFD55, 0xFD67, 0xFD6D, 0xFD6F, 0xFD7B, 0xFD85, 0xFD97, 0xFD99, 0xFD9F, 0xFDA9, 0xFDB7, 0xFDC9, 0xFDE5],
  [0xFDEB, 0xFDF3, 0xFE03, 0xFE05, 0xFE09, 0xFE1D, 0xFE27, 0xFE2F, 0xFE41, 0xFE4B, 0xFE4D, 0xFE57, 0xFE5F, 0xFE63],
  [0xFE69, 0xFE75, 0xFE7B, 0xFE8F, 0xFE93, 0xFE95, 0xFE9B, 0xFE9F, 0xFEB3, 0xFEBD, 0xFED7, 0xFEE9, 0xFEF3, 0xFEF5],
  [0xFF07, 0xFF0D, 0xFF1D, 0xFF2B, 0xFF2F, 0xFF49, 0xFF4D, 0xFF5B, 0xFF65, 0xFF71, 0xFF7F, 0xFF85, 0xFF8B, 0xFF8F],
  [0xFF9D, 0xFFA7, 0xFFA9, 0xFFC7, 0xFFD9, 0xFFEF, 0xFFF1, 0x10001, 0x10003, 0x10007, 0x1000F, 0x10015, 0x1001B],
  [0x1002B, 0x1002D, 0x10033, 0x1003F, 0x10049, 0x10051, 0x1005D, 0x10061, 0x1006F, 0x10073, 0x10079, 0x1008D],
  [0x10097, 0x100A3, 0x100A5, 0x100AB, 0x100B1, 0x100B5, 0x100B7, 0x100C1, 0x100C3, 0x100E1, 0x100F1, 0x100FD],
  [0x10111, 0x10123, 0x10127, 0x1012D, 0x1012F, 0x10133, 0x1013B, 0x1014B, 0x10159, 0x1016B, 0x10181, 0x10187],
  [0x10189, 0x1019F, 0x101A5, 0x101AB, 0x101BD, 0x101BF, 0x101C9, 0x101ED, 0x101F5, 0x101F9, 0x101FF, 0x10213],
  [0x10217, 0x10223, 0x10229, 0x10237, 0x1023B, 0x1023D, 0x10259, 0x10271, 0x10279, 0x1027D, 0x10283, 0x1028F],
  [0x102AD, 0x102BF, 0x102DF, 0x102F5, 0x102FD, 0x10321, 0x10327, 0x1032B, 0x10337, 0x10339, 0x10345, 0x10349],
  [0x1034F, 0x10363, 0x1036D, 0x1037F, 0x10391, 0x10399, 0x1039F, 0x103A3, 0x103BB, 0x103C3, 0x103CD, 0x103DB],
  [0x103E1, 0x103E5, 0x103ED, 0x103F9, 0x10409, 0x1040B, 0x1041B, 0x10421, 0x10429, 0x10439, 0x10445, 0x10453],
  [0x1045D, 0x1047B, 0x10489, 0x1048D, 0x10499, 0x104A1, 0x104AD, 0x104B3, 0x104BD, 0x104BF, 0x104CB, 0x104E7],
  [0x104ED, 0x104F9, 0x10505, 0x10519, 0x10523, 0x10525, 0x1052F, 0x1053D, 0x10543, 0x10549, 0x10567, 0x1056B],
  [0x10573, 0x1057F, 0x10583, 0x10585, 0x1058F, 0x1059D, 0x105A1, 0x105BB, 0x105CD, 0x105D9, 0x105E3, 0x105E9],
  [0x105F1, 0x105F5, 0x10601, 0x10607, 0x1061F, 0x10631, 0x10639, 0x10643, 0x10645, 0x10651, 0x10655, 0x10661],
  [0x1066D, 0x10673, 0x10675, 0x1068B, 0x1068D, 0x10691, 0x10693, 0x1069F, 0x106AF, 0x106BD, 0x106C7, 0x106C9],
  [0x106D9, 0x106EB, 0x1070B, 0x1070F, 0x10715, 0x10729, 0x1073F, 0x10747, 0x10751, 0x10753, 0x1075D, 0x10763],
  [0x10765, 0x10769, 0x10777, 0x1077D, 0x10795, 0x10799, 0x107A1, 0x107A5, 0x107AB, 0x107B7, 0x107C3, 0x107CB],
  [0x107D1, 0x107DB, 0x107E7, 0x107EF, 0x107F9, 0x107FB, 0x10805, 0x10811, 0x10817, 0x10823, 0x1082F, 0x10843],
  [0x1085F, 0x10873, 0x1087D, 0x1088B, 0x10895, 0x1089D, 0x108A7, 0x108AD, 0x108AF, 0x108B3, 0x108C1, 0x108C7],
  [0x108CD, 0x108D9, 0x108DF, 0x108EB, 0x108F5, 0x10903, 0x1090D, 0x1091B, 0x1092B, 0x10933, 0x1093D, 0x10957],
  [0x1095B, 0x1095D, 0x10963, 0x10967, 0x10975, 0x10979, 0x1097F, 0x1098B, 0x10993, 0x10999, 0x109B7, 0x109C9],
  [0x109D5, 0x109DB, 0x109E7, 0x109F7, 0x10A03, 0x10A0F, 0x10A11, 0x10A2D, 0x10A33, 0x10A41, 0x10A4B, 0x10A6F],
  [0x10A71, 0x10A75, 0x10A7B, 0x10A83, 0x10A8F, 0x10AA5, 0x10AB7, 0x10AB9, 0x10AD7, 0x10AE9, 0x10AFF, 0x10B13],
  [0x10B25, 0x10B2F, 0x10B55, 0x10B5B, 0x10B5F, 0x10B61, 0x10B79, 0x10B7D, 0x10B83, 0x10B89, 0x10B8B, 0x10B95],
  [0x10B9B, 0x10BA9, 0x10BB3, 0x10BBB, 0x10BBF, 0x10BD7, 0x10BE5, 0x10BF5, 0x10C03, 0x10C19, 0x10C1F, 0x10C33],
  [0x10C3D, 0x10C4B, 0x10C4F, 0x10C5B, 0x10C67, 0x10C69, 0x10C79, 0x10C81, 0x10C87, 0x10C8D, 0x10C9F, 0x10CA3],
  [0x10CA9, 0x10CB7, 0x10CCD, 0x10CD3, 0x10CD5, 0x10CFF, 0x10D0F, 0x10D11, 0x10D1B, 0x10D21, 0x10D23, 0x10D27],
  [0x10D2D, 0x10D35, 0x10D3F, 0x10D53, 0x10D63, 0x10D81, 0x10D89, 0x10D93, 0x10D9B, 0x10DA5, 0x10DA7, 0x10DC5],
  [0x10DCB, 0x10DD1, 0x10DF5, 0x10DFF, 0x10E07, 0x10E17, 0x10E1D, 0x10E1F, 0x10E2B, 0x10E47, 0x10E49, 0x10E4D],
  [0x10E53, 0x10E65, 0x10E71, 0x10E77, 0x10E7F, 0x10E89, 0x10E8B, 0x10E8F, 0x10EC1, 0x10EC5, 0x10ED9, 0x10EDD],
  [0x10EFB, 0x10F03, 0x10F07, 0x10F0D, 0x10F19, 0x10F1B, 0x10F33, 0x10F37, 0x10F3F, 0x10F51, 0x10F57, 0x10F5B],
  [0x10F61, 0x10F69, 0x10F73, 0x10F75, 0x10F79, 0x10F7B, 0x10FA3, 0x10FB5, 0x10FD9, 0x10FF7, 0x11015, 0x1101D],
  [0x1102D, 0x1103B, 0x11041, 0x1104D, 0x11069, 0x1106B, 0x11081, 0x11083, 0x11087, 0x11093, 0x110B1, 0x110BD],
  [0x110C3, 0x110C5, 0x110C9, 0x110D7, 0x110E1, 0x110E3, 0x110F5, 0x1110B, 0x11117, 0x11129, 0x1112B, 0x11135],
  [0x11147, 0x11167, 0x1116D, 0x11171, 0x11173, 0x11179, 0x11183, 0x11197, 0x111A3, 0x111AD, 0x111B3, 0x111BF],
  [0x111D3, 0x111DF, 0x111E5, 0x111E9, 0x111EB, 0x111FB, 0x111FD, 0x1120D, 0x11213, 0x11221, 0x11225, 0x11227],
  [0x11237, 0x11239, 0x1123F, 0x1124F, 0x11255, 0x1125D, 0x11261, 0x11269, 0x1127F, 0x11291, 0x11299, 0x112A5],
  [0x112A9, 0x112B1, 0x112B7, 0x112CF, 0x112E5, 0x112EB, 0x112ED, 0x112F9, 0x11317, 0x1131D, 0x11327, 0x11333],
  [0x11339, 0x1133B, 0x11351, 0x11357, 0x11359, 0x11365, 0x1136B, 0x11381, 0x11389, 0x11395, 0x113AB, 0x113AD],
  [0x113B7, 0x113BD, 0x113CF, 0x113DB, 0x113DD, 0x113E3, 0x113EF, 0x11401, 0x11407, 0x1140B, 0x1141F, 0x11435],
  [0x1143D, 0x11449, 0x11461, 0x11471, 0x1147F, 0x11489, 0x114A7, 0x114B9, 0x114BB, 0x114C1, 0x114C5, 0x114D3],
  [0x114DD, 0x114DF, 0x114EB, 0x114F5, 0x11501, 0x11507, 0x11509, 0x11519, 0x11525, 0x11527, 0x1152D, 0x11539],
  [0x11543, 0x11545, 0x1154F, 0x11555, 0x11557, 0x11563, 0x1156F, 0x1157F, 0x11593, 0x1159D, 0x115A9, 0x115B1],
  [0x115CF, 0x115D9, 0x115E7, 0x115EB, 0x115F1, 0x115F9, 0x115FF, 0x11603, 0x11617, 0x11629, 0x11641, 0x11645],
  [0x11651, 0x11659, 0x1165D, 0x1165F, 0x11677, 0x1167D, 0x11695, 0x1169F, 0x116A1, 0x116A5, 0x116AB, 0x116AD],
  [0x116B3, 0x116B9, 0x116BF, 0x116C3, 0x116DB, 0x116DD, 0x116E7, 0x116F3, 0x116F5, 0x116FB, 0x11705, 0x1170D],
  [0x11713, 0x1171D, 0x1172F, 0x11731, 0x11737, 0x1173B, 0x1174F, 0x11767, 0x11771, 0x1177D, 0x1177F, 0x1178B],
  [0x11791, 0x117A9, 0x117AD, 0x117D1, 0x117DF, 0x117EF, 0x117F7, 0x1180D, 0x11813, 0x1181B, 0x1181F, 0x11821],
  [0x11827, 0x1183D, 0x11851, 0x11861, 0x1186D, 0x1187F, 0x11881, 0x1188D, 0x1189D, 0x118A3, 0x118A9, 0x118B5],
  [0x118BB, 0x118C7, 0x118C9, 0x118CF, 0x118DB, 0x118E5, 0x118ED, 0x118FD, 0x11905, 0x1190B, 0x1191B, 0x11923],
  [0x1192F, 0x11933, 0x11939, 0x1193F, 0x11953, 0x1195F, 0x1196B, 0x1196F, 0x11975, 0x11989, 0x1198D, 0x11999],
  [0x1199B, 0x119A5, 0x119A7, 0x119AD, 0x119CB, 0x119E1, 0x119E7, 0x119E9, 0x119ED, 0x11A13, 0x11A1D, 0x11A1F],
  [0x11A23, 0x11A25, 0x11A3B, 0x11A3D, 0x11A4D, 0x11A4F, 0x11A55, 0x11A5F, 0x11A73, 0x11A79, 0x11A91, 0x11A95],
  [0x11AA1, 0x11AAF, 0x11ABB, 0x11ABF, 0x11AE5, 0x11AEF, 0x11B0D, 0x11B13, 0x11B15, 0x11B21, 0x11B2D, 0x11B31],
  [0x11B37, 0x11B55, 0x11B63, 0x11B67, 0x11B6F, 0x11B81, 0x11BA5, 0x11BA9, 0x11BAF, 0x11BC3, 0x11BC7, 0x11BC9],
  [0x11BD5, 0x11BDF, 0x11BE1, 0x11BE7, 0x11BF1, 0x11BFD, 0x11C03, 0x11C0F, 0x11C17, 0x11C1D, 0x11C23, 0x11C3B],
  [0x11C3F, 0x11C5D, 0x11C71, 0x11C77, 0x11C9B, 0x11CA5, 0x11CA7, 0x11CB3, 0x11CB9, 0x11CBD, 0x11CC5, 0x11CCB],
  [0x11CCF, 0x11CDB, 0x11CE3, 0x11CE9, 0x11CF5, 0x11CF9, 0x11CFF, 0x11D0D, 0x11D11, 0x11D25, 0x11D31, 0x11D35],
  [0x11D3B, 0x11D4D, 0x11D4F, 0x11D53, 0x11D65, 0x11D67, 0x11D77, 0x11D83, 0x11DA1, 0x11DA7, 0x11DAD, 0x11DB5],
  [0x11DDD, 0x11DE5, 0x11E15, 0x11E1B, 0x11E2B, 0x11E3D, 0x11E4B, 0x11E57, 0x11E5D, 0x11E6F, 0x11E73, 0x11E87],
  [0x11E91, 0x11E93, 0x11E99, 0x11EA3, 0x11EAB, 0x11EC9, 0x11ECD, 0x11ED9, 0x11EED, 0x11EF3, 0x11EFF, 0x11F05],
  [0x11F0B, 0x11F2D, 0x11F33, 0x11F39, 0x11F4B, 0x11F51, 0x11F59, 0x11F63, 0x11F6F, 0x11F75, 0x11F7D, 0x11F87],
  [0x11F89, 0x11F8D, 0x11FA5, 0x11FAB, 0x11FB3, 0x11FC9, 0x11FCF, 0x11FD1, 0x11FDD, 0x11FE3, 0x11FED, 0x11FF9],
  [0x11FFF, 0x12017, 0x1201D, 0x1202B, 0x12037, 0x1205B, 0x1205F, 0x12077, 0x12079, 0x12083, 0x1208B, 0x12095],
  [0x1209B, 0x120A9, 0x120B3, 0x120D3, 0x120D7, 0x120DF, 0x120E9, 0x120F5, 0x1210F, 0x12121, 0x12125, 0x1212B],
  [0x1213F, 0x12143, 0x12157, 0x1215D, 0x1216D, 0x12173, 0x12175, 0x12193, 0x1219F, 0x121A5, 0x121AF, 0x121B1],
  [0x121B7, 0x121C1, 0x121CD, 0x121D5, 0x121D9, 0x121DB, 0x121E1, 0x121EB, 0x121F7, 0x12211, 0x12227, 0x1222F],
  [0x12235, 0x12239, 0x12247, 0x1224D, 0x12253, 0x12271, 0x12275, 0x1227B, 0x12289, 0x1228D, 0x1228F, 0x122AB],
  [0x122AD, 0x122B3, 0x122C9, 0x122D1, 0x122D5, 0x122E7, 0x122F9, 0x1230B, 0x1230D, 0x12319, 0x1231F, 0x12323],
  [0x12337, 0x12341, 0x12347, 0x1234D, 0x1235B, 0x12365, 0x12371, 0x12373, 0x1237F, 0x1239D, 0x123BF, 0x123CB],
  [0x123D3, 0x123D9, 0x123DD, 0x123DF, 0x123E9, 0x123EB, 0x123FB, 0x12407, 0x12409, 0x12413, 0x1241B, 0x1242D],
  [0x12445, 0x1244B, 0x1244F, 0x1245B, 0x12469, 0x1246D, 0x12475, 0x12479, 0x12487, 0x1248B, 0x12491, 0x12497],
  [0x124AB, 0x124B1, 0x124B5, 0x124BD, 0x124CF, 0x12503, 0x12505, 0x12509, 0x12515, 0x1251D, 0x12521, 0x12547],
  [0x1254B, 0x12565, 0x1257D, 0x1258D, 0x12599, 0x1259F, 0x125A1, 0x125AD, 0x125B9, 0x125C9, 0x125CB, 0x125D1],
  [0x125D7, 0x125DB, 0x125E7, 0x125F5, 0x12605, 0x1260D, 0x12619, 0x1262B, 0x1263B, 0x12641, 0x12649, 0x12653],
  [0x12659, 0x12667, 0x12671, 0x1267D, 0x1267F, 0x12689, 0x1268B, 0x1268F, 0x126A7, 0x126AD, 0x126D7, 0x126EF],
  [0x126F7, 0x12701, 0x12707, 0x1270D, 0x12713, 0x12715, 0x12721, 0x12725, 0x12733, 0x12739, 0x1273F, 0x1275B],
  [0x12761, 0x12763, 0x1276D, 0x12779, 0x12785, 0x1278B, 0x1279F, 0x127A3, 0x127A9, 0x127B7, 0x127BB, 0x127BD],
  [0x127C9, 0x127D3, 0x127DF, 0x127F7, 0x127FD, 0x12805, 0x1280B, 0x12811, 0x12815, 0x1282D, 0x12839, 0x1284D],
  [0x1285D, 0x1286B, 0x12889, 0x1289B, 0x128A1, 0x128A5, 0x128BF, 0x128CB, 0x128CF, 0x128D5, 0x128D7, 0x128DD],
  [0x128E1, 0x128E3, 0x128FF, 0x12907, 0x1292F, 0x12931, 0x1293B, 0x12943, 0x12947, 0x1295B, 0x12961, 0x12973],
  [0x1297D, 0x1297F, 0x12983, 0x129AF, 0x129B5, 0x129C7, 0x129D3, 0x129D9, 0x129DD, 0x129E3, 0x129E5, 0x129FB],
  [0x12A01, 0x12A0F, 0x12A2D, 0x12A37, 0x12A4F, 0x12A51, 0x12A5B, 0x12A63, 0x12A73, 0x12A85, 0x12A87, 0x12A99],
  [0x12AAF, 0x12AB7, 0x12AC1, 0x12AC7, 0x12ACD, 0x12ADB, 0x12ADF, 0x12AE7, 0x12AF9, 0x12AFD, 0x12AFF, 0x12B11],
  [0x12B23, 0x12B35, 0x12B3B, 0x12B3F, 0x12B57, 0x12B69, 0x12B6B, 0x12B7B, 0x12B81, 0x12B87, 0x12B99, 0x12BAD],
  [0x12BBD, 0x12BD1, 0x12BD5, 0x12BE3, 0x12BE9, 0x12BED, 0x12C01, 0x12C13, 0x12C1D, 0x12C1F, 0x12C25, 0x12C2F],
  [0x12C47, 0x12C49, 0x12C53, 0x12C6B, 0x12C71, 0x12C77, 0x12C8F, 0x12C95, 0x12CA1, 0x12CA3, 0x12CBF, 0x12CCB],
  [0x12CD9, 0x12CDF, 0x12CE5, 0x12CF1, 0x12CF7, 0x12D0D, 0x12D19, 0x12D25, 0x12D2D, 0x12D51, 0x12D55, 0x12D61],
  [0x12D6F, 0x12D73, 0x12D87, 0x12D91, 0x12D9D, 0x12DB5, 0x12DB7, 0x12DBB, 0x12DC1, 0x12DCD, 0x12DCF, 0x12DD3],
  [0x12DD5, 0x12DDF, 0x12DEB, 0x12E05, 0x12E0B, 0x12E1B, 0x12E23, 0x12E27, 0x12E2F, 0x12E39, 0x12E41, 0x12E47],
  [0x12E69, 0x12E6B, 0x12E77, 0x12E87, 0x12E9F, 0x12EA5, 0x12EA7, 0x12EB1, 0x12EB3, 0x12EC5, 0x12EC9, 0x12ED1],
  [0x12ED7, 0x12EE7, 0x12EED, 0x12EEF, 0x12EF5, 0x12EFB, 0x12F01, 0x12F05, 0x12F13, 0x12F17, 0x12F2B, 0x12F31],
  [0x12F35, 0x12F49, 0x12F4F, 0x12F5B, 0x12F71, 0x12F77, 0x12F79, 0x12F83, 0x12F8F, 0x12F91, 0x12F97, 0x12F9B],
  [0x12FA3, 0x12FAF, 0x12FB3, 0x12FC1, 0x12FCD, 0x12FD7, 0x12FE5, 0x12FE9, 0x12FF5, 0x1300F, 0x13019, 0x13027],
  [0x1302B, 0x13045, 0x1304B, 0x13069, 0x1306D, 0x1307F, 0x13091, 0x13099, 0x1309F, 0x130AF, 0x130B7, 0x130C1],
  [0x130CF, 0x130D9, 0x130E1, 0x130EB, 0x130FF, 0x13115, 0x13129, 0x13139, 0x1313B, 0x1314D, 0x13153, 0x13157],
  [0x1315D, 0x13163, 0x1316F, 0x13171, 0x1317B, 0x13195, 0x13199, 0x131A1, 0x131B3, 0x131C5, 0x131CB, 0x131DD],
  [0x131E3, 0x131E7, 0x131ED, 0x13205, 0x1320B, 0x1321F, 0x13241, 0x1325B, 0x13265, 0x13267, 0x13283, 0x1328F],
  [0x13297, 0x132A1, 0x132AD, 0x132AF, 0x132B5, 0x132CB, 0x132CD, 0x132D9, 0x132E9, 0x132EB, 0x132F1, 0x132F7],
  [0x13301, 0x1330F, 0x1331F, 0x13333, 0x13339, 0x1333D, 0x13363, 0x13369, 0x13373, 0x13379, 0x13381, 0x13391],
  [0x133BB, 0x133BD, 0x133C3, 0x133C7, 0x133CD, 0x133D3, 0x133D9, 0x133E7, 0x133F7, 0x13405, 0x13409, 0x1341D],
  [0x13427, 0x13429, 0x1342D, 0x13435, 0x13447, 0x13451, 0x1345D, 0x13481, 0x13483, 0x1348D, 0x134B7, 0x134BF],
  [0x134C3, 0x134D7, 0x134EF, 0x134FF, 0x13507, 0x1351D, 0x13523, 0x1352B, 0x1352F, 0x13531, 0x13537, 0x1354D],
  [0x13553, 0x13559, 0x13561, 0x1357D, 0x1357F, 0x13589, 0x1359B, 0x135A9, 0x135AF, 0x135B3, 0x135C5, 0x135CD],
  [0x135D7, 0x135E5, 0x135E9, 0x135F5, 0x135FD, 0x13607, 0x13613, 0x13621, 0x13625, 0x13627, 0x13633, 0x1363F],
  [0x13643, 0x13649, 0x1365B, 0x13679, 0x13685, 0x136AB, 0x136B1, 0x136BD, 0x136C7, 0x136C9, 0x136DB, 0x136E5],
  [0x136F1, 0x136F9, 0x136FD, 0x13705, 0x1370B, 0x1370F, 0x13711, 0x13729, 0x13735, 0x13747, 0x1374B, 0x1374D],
  [0x13751, 0x13753, 0x1378D, 0x13799, 0x137A1, 0x137B9, 0x137C3, 0x137C5, 0x137C9, 0x137CF, 0x137D5, 0x137E1],
  [0x137E3, 0x137E7, 0x137F5, 0x137FB, 0x13801, 0x13811, 0x1381D, 0x1381F, 0x13823, 0x13843, 0x13847, 0x1385F],
  [0x13865, 0x1386B, 0x13873, 0x1387D, 0x1387F, 0x13895, 0x138A7, 0x138B3, 0x138C7, 0x138CD, 0x138EB, 0x138EF],
  [0x1390D, 0x13913, 0x13915, 0x13919, 0x13927, 0x1392D, 0x13931, 0x1393F, 0x1394F, 0x13951, 0x1395D, 0x13967],
  [0x13969, 0x1396F, 0x1397B, 0x13987, 0x13991, 0x13997, 0x1399F, 0x139B5, 0x139BD, 0x139C9, 0x139D5, 0x139DB],
  [0x139EB, 0x139F1, 0x13A03, 0x13A17, 0x13A2D, 0x13A3F, 0x13A41, 0x13A57, 0x13A59, 0x13A69, 0x13A6B, 0x13A81],
  [0x13A8F, 0x13A99, 0x13AAD, 0x13AB7, 0x13AD7, 0x13ADB, 0x13AE3, 0x13AED, 0x13AF3, 0x13AF5, 0x13B0B, 0x13B11],
  [0x13B1D, 0x13B1F, 0x13B25, 0x13B29, 0x13B2B, 0x13B2F, 0x13B3D, 0x13B49, 0x13B61, 0x13B6B, 0x13B6D, 0x13B79],
  [0x13B89, 0x13B8B, 0x13B8F, 0x13B95, 0x13BA3, 0x13BA9, 0x13BB3, 0x13BBF, 0x13BC1, 0x13BD1, 0x13BDF, 0x13C01],
  [0x13C0D, 0x13C0F, 0x13C15, 0x13C1B, 0x13C21, 0x13C25, 0x13C39, 0x13C43, 0x13C5D, 0x13C69, 0x13C75, 0x13C79],
  [0x13C7B, 0x13C7F, 0x13C87, 0x13C91, 0x13C93, 0x13C97, 0x13C99, 0x13CAF, 0x13CB5, 0x13CBB, 0x13CC9, 0x13CCD],
  [0x13CDF, 0x13CEB, 0x13D05, 0x13D0B, 0x13D15, 0x13D1D, 0x13D2D, 0x13D2F, 0x13D33, 0x13D47, 0x13D51, 0x13D57],
  [0x13D81, 0x13D83, 0x13D8D, 0x13D93, 0x13D9B, 0x13DB3, 0x13DBF, 0x13DC5, 0x13DC9, 0x13DCF, 0x13DDB, 0x13DDD],
  [0x13DF9, 0x13E01, 0x13E0D, 0x13E1F, 0x13E31, 0x13E37, 0x13E65, 0x13E6D, 0x13E77, 0x13E7D, 0x13E8B, 0x13E8F],
  [0x13E91, 0x13E97, 0x13E9B, 0x13EA1, 0x13ECB, 0x13ED3, 0x13EDD, 0x13EE5, 0x13EEF, 0x13EF1, 0x13F03, 0x13F07],
  [0x13F0D, 0x13F19, 0x13F25, 0x13F27, 0x13F2B, 0x13F3F, 0x13F49, 0x13F55, 0x13F61, 0x13F69, 0x13F6D, 0x13F87],
  [0x13F99, 0x13FAF, 0x13FB7, 0x13FBD, 0x13FCD, 0x13FDB, 0x13FEB, 0x13FED, 0x13FFF, 0x14009, 0x1400B, 0x14011],
  [0x14017, 0x14021, 0x1402F, 0x14033, 0x14035, 0x14053, 0x14057, 0x14059, 0x1405D, 0x14065, 0x1406F, 0x14075],
  [0x14077, 0x14083, 0x14093, 0x14099, 0x140D1, 0x140DB, 0x140DD, 0x140E9, 0x140F3, 0x140FB, 0x14107, 0x1410D],
  [0x14111, 0x1411F, 0x14129, 0x1412B, 0x1412F, 0x14137, 0x1413D, 0x14141, 0x14155, 0x1415B, 0x14167, 0x1417D],
  [0x14183, 0x141A3, 0x141AD, 0x141AF, 0x141B9, 0x141C5, 0x141D3, 0x141D9, 0x141F5, 0x14219, 0x1421F, 0x14225],
  [0x14227, 0x14233, 0x14237, 0x1423D, 0x14243, 0x1424B, 0x14261, 0x14263, 0x14275, 0x1427F, 0x14281, 0x14287],
  [0x1428B, 0x1429F, 0x142A9, 0x142B1, 0x142B5, 0x142BB, 0x142C9, 0x142DB, 0x142E1, 0x1430B, 0x14321, 0x14323],
  [0x14327, 0x14329, 0x14345, 0x14347, 0x1434B, 0x1435D, 0x14363, 0x14369, 0x1436F, 0x1437B, 0x1437D, 0x14395],
  [0x1439F, 0x143C3, 0x143C9, 0x143CB, 0x143D7, 0x143E1, 0x143FB, 0x14413, 0x14425, 0x14435, 0x1443B, 0x14441],
  [0x1444F, 0x14467, 0x14473, 0x14477, 0x1447F, 0x14485, 0x14491, 0x14495, 0x1449D, 0x144AD, 0x144C1, 0x144E9],
  [0x14503, 0x14507, 0x14513, 0x14515, 0x1451B, 0x1451F, 0x14521, 0x1452B, 0x14539, 0x14543, 0x14545, 0x14549],
  [0x14563, 0x1456F, 0x1458B, 0x1458D, 0x1459D, 0x145B7, 0x145BD, 0x145C7, 0x145C9, 0x145CF, 0x145D9, 0x145DF],
  [0x145E7, 0x145ED, 0x145F3, 0x145F9, 0x14603, 0x1460F, 0x14615, 0x14629, 0x14651, 0x14665, 0x14669, 0x1466B],
  [0x1467B, 0x14687, 0x1468D, 0x14699, 0x146A1, 0x146A5, 0x146B7, 0x146B9, 0x146C5, 0x146CF, 0x146E9, 0x146F5],
  [0x14705, 0x14707, 0x14719, 0x14731, 0x1473D, 0x14741, 0x1474F, 0x14765, 0x14779, 0x14783, 0x14791, 0x1479D],
  [0x147A1, 0x147B3, 0x147BF, 0x147C7, 0x147D1, 0x147DD, 0x147E3, 0x14801, 0x1480F, 0x14813, 0x1482B, 0x14831],
  [0x1484F, 0x14855, 0x1485B, 0x1485D, 0x14863, 0x14879, 0x14899, 0x1489F, 0x148A3, 0x148A9, 0x148AF, 0x148C3],
  [0x148D3, 0x148D5, 0x148DF, 0x148E7, 0x148F3, 0x148FD, 0x148FF, 0x14905, 0x1490F, 0x14917, 0x14927, 0x1494B],
  [0x14953, 0x14959, 0x1495D, 0x1495F, 0x1497B, 0x1497D, 0x14999, 0x149A5, 0x149A7, 0x149B1, 0x149B7, 0x149C5],
  [0x149CF, 0x149D5, 0x149DB, 0x149E1, 0x149E9, 0x149EF, 0x149F3, 0x14A01, 0x14A13, 0x14A17, 0x14A1D, 0x14A29],
  [0x14A2B, 0x14A35, 0x14A47, 0x14A4F, 0x14A6D, 0x14A95, 0x14A97, 0x14AA9, 0x14AAD, 0x14AB3, 0x14AC1, 0x14AD3],
  [0x14AD9, 0x14ADD, 0x14AE9, 0x14AEF, 0x14AFB, 0x14B01, 0x14B0F, 0x14B19, 0x14B33, 0x14B39, 0x14B49, 0x14B4B],
  [0x14B5B, 0x14B79, 0x14B7B, 0x14B85, 0x14B87, 0x14BB1, 0x14BB7, 0x14BD3, 0x14BE1, 0x14BE7, 0x14BF1, 0x14BF3],
  [0x14BFF, 0x14C11, 0x14C1D, 0x14C23, 0x14C2D, 0x14C39, 0x14C45, 0x14C59, 0x14C5F, 0x14C63, 0x14C65, 0x14C6F],
  [0x14C75, 0x14C81, 0x14C8D, 0x14C9B, 0x14CA7, 0x14CC9, 0x14CCF, 0x14CD1, 0x14CDD, 0x14CE7, 0x14CED, 0x14CF5],
  [0x14CFB, 0x14CFF, 0x14D0B, 0x14D31, 0x14D37, 0x14D41, 0x14D53, 0x14D55, 0x14D71, 0x14D73, 0x14D79, 0x14D85],
  [0x14DA3, 0x14DB3, 0x14DB5, 0x14DBF, 0x14DC7, 0x14DCB, 0x14DCD, 0x14DDD, 0x14DEF, 0x14E09, 0x14E0D, 0x14E13],
  [0x14E1B, 0x14E2D, 0x14E43, 0x14E49, 0x14E5D, 0x14E61, 0x14E67, 0x14E73, 0x14E75, 0x14E7B, 0x14E87, 0x14E8B],
  [0x14E9D, 0x14EA3, 0x14EA5, 0x14EBB, 0x14EC7, 0x14ECF, 0x14ED5, 0x14EE5, 0x14EF7, 0x14F15, 0x14F21, 0x14F39],
  [0x14F3B, 0x14F45, 0x14F47, 0x14F4D, 0x14F53, 0x14F57, 0x14F5D, 0x14F81, 0x14F8F, 0x14F95, 0x14FAB, 0x14FAD],
  [0x14FE7, 0x14FEF, 0x14FFB, 0x15001, 0x1500B, 0x1500D, 0x15035, 0x1503D, 0x15043, 0x1505F, 0x15061, 0x15065],
  [0x15073, 0x15079, 0x1507F, 0x15091, 0x1509B, 0x150A3, 0x150A7, 0x150B5, 0x150B9, 0x150C1, 0x150DF, 0x150E3],
  [0x150E9, 0x150F1, 0x150F7, 0x150FD, 0x1510F, 0x15113, 0x15115, 0x15119, 0x15127, 0x15133, 0x15145, 0x1514F],
  [0x15151, 0x15155, 0x15161, 0x15163, 0x1516D, 0x15175, 0x1517F, 0x1518D, 0x15197, 0x151A9, 0x151B5, 0x151BD],
  [0x151C3, 0x151CD, 0x151DB, 0x151E5, 0x151ED, 0x15203, 0x15205, 0x1520B, 0x15221, 0x1522D, 0x15233, 0x1523B],
  [0x15247, 0x15263, 0x15265, 0x15295, 0x152A1, 0x152A5, 0x152B7, 0x152BF, 0x152C9, 0x152D7, 0x152E1, 0x152EF],
  [0x152F3, 0x152FF, 0x1531D, 0x15335, 0x1533B, 0x15343, 0x15349, 0x1534D, 0x15355, 0x1538B, 0x1538F, 0x15391],
  [0x1539B, 0x153A7, 0x153AF, 0x153B9, 0x153C5, 0x153D1, 0x153E3, 0x153E5, 0x153FD, 0x15401, 0x15409, 0x1541F],
  [0x1542B, 0x1543F, 0x15443, 0x1544F, 0x15451, 0x1545D, 0x1546D, 0x1546F, 0x1548B, 0x1548D, 0x15493, 0x154AB],
  [0x154B5, 0x154B7, 0x154D3, 0x154D5, 0x154D9, 0x154ED, 0x154F1, 0x154FD, 0x15503, 0x15511, 0x15515, 0x1551B],
  [0x15529, 0x1553F, 0x15557, 0x1556B, 0x1556F, 0x1557D, 0x15583, 0x15589, 0x15593, 0x155B1, 0x155B9, 0x155C3],
  [0x155D5, 0x155D7, 0x155DD, 0x155E3, 0x155F3, 0x155F5, 0x155FB, 0x15601, 0x15605, 0x15607, 0x1561F, 0x15623],
  [0x15625, 0x1563D, 0x15647, 0x1564D, 0x1564F, 0x15659, 0x1565B, 0x15661, 0x15677, 0x1567F, 0x15683, 0x1568B],
  [0x15691, 0x15695, 0x156A7, 0x156A9, 0x156BB, 0x156BF, 0x156C7, 0x156D7, 0x156F1, 0x156F5, 0x156FB, 0x15703],
  [0x15719, 0x1572D, 0x1573D, 0x15745, 0x15749, 0x1574F, 0x15767, 0x1576D, 0x1577B, 0x15787, 0x15797, 0x15799],
  [0x157A5, 0x157A9, 0x157B7, 0x157C1, 0x157C3, 0x157C7, 0x157D3, 0x157E5, 0x15805, 0x1580F, 0x1581D, 0x15835],
  [0x15841, 0x15869, 0x15871, 0x15893, 0x1589F, 0x158AD, 0x158B1, 0x158C3, 0x158C5, 0x158E1, 0x158ED, 0x15901],
  [0x15907, 0x15911, 0x15913, 0x1593B, 0x1594D, 0x1595B, 0x15967, 0x1596B, 0x1598F, 0x15995, 0x15997, 0x159AD],
  [0x159B3, 0x159C1, 0x159CB, 0x159E3, 0x15A0D, 0x15A0F, 0x15A1F, 0x15A21, 0x15A43, 0x15A4B, 0x15A51, 0x15A55],
  [0x15A57, 0x15A5B, 0x15A69, 0x15A91, 0x15A99, 0x15AA5, 0x15AAB, 0x15AC3, 0x15AD5, 0x15AD9, 0x15ADF, 0x15AE1],
  [0x15AE7, 0x15AEB, 0x15AED, 0x15AF1, 0x15AF3, 0x15B0B, 0x15B15, 0x15B1D, 0x15B23, 0x15B29, 0x15B33, 0x15B41],
  [0x15B47, 0x15B57, 0x15B69, 0x15B77, 0x15B89, 0x15BA1, 0x15BA5, 0x15BAB, 0x15BB1, 0x15BB9, 0x15BBD, 0x15BD1],
  [0x15BDB, 0x15BE1, 0x15BED, 0x15BEF, 0x15BFB, 0x15BFF, 0x15C0D, 0x15C13, 0x15C19, 0x15C1F, 0x15C23, 0x15C31],
  [0x15C41, 0x15C65, 0x15C73, 0x15C79, 0x15C7D, 0x15C8B, 0x15C8F, 0x15C95, 0x15CAD, 0x15CB5, 0x15CB9, 0x15CCD],
  [0x15CD7, 0x15CE5, 0x15CF1, 0x15D13, 0x15D1B, 0x15D25, 0x15D2B, 0x15D31, 0x15D37, 0x15D45, 0x15D49, 0x15D57],
  [0x15D63, 0x15D69, 0x15D73, 0x15D85, 0x15D93, 0x15D9D, 0x15DA9, 0x15DAF, 0x15DB1, 0x15DB7, 0x15DBD, 0x15DD9],
  [0x15DDB, 0x15DDF, 0x15DF7, 0x15DFD, 0x15DFF, 0x15E03, 0x15E0B, 0x15E1B, 0x15E21, 0x15E35, 0x15E39, 0x15E3B],
  [0x15E45, 0x15E47, 0x15E51, 0x15E59, 0x15E99, 0x15E9F, 0x15EA7, 0x15EB3, 0x15EB7, 0x15EC5, 0x15ED1, 0x15EDB],
  [0x15EDD, 0x15EE9, 0x15EEF, 0x15EF9, 0x15F0B, 0x15F23, 0x15F29, 0x15F2B, 0x15F35, 0x15F3D, 0x15F43, 0x15F53],
  [0x15F67, 0x15F6B, 0x15F79, 0x15F7F, 0x15F85, 0x15F91, 0x15F97, 0x15F9B, 0x15FA1, 0x15FA3, 0x15FA7, 0x15FAF],
  [0x15FC5, 0x15FCB, 0x15FD3, 0x15FD7, 0x15FD9, 0x15FE9, 0x15FFB, 0x16009, 0x1600F, 0x16025, 0x16033, 0x1603D],
  [0x1604B, 0x1604F, 0x16055, 0x16057, 0x1605B, 0x16069, 0x16073, 0x1607F, 0x16087, 0x16097, 0x1609F, 0x160A9],
  [0x160B1, 0x160C9, 0x160F1, 0x160F7, 0x16103, 0x16105, 0x1610B, 0x1611D, 0x16121, 0x16123, 0x16127, 0x16145],
  [0x16147, 0x16165, 0x16169, 0x16171, 0x16183, 0x1618F, 0x1619B, 0x1619F, 0x161A1, 0x161A5, 0x161B3, 0x161D7],
  [0x161E7, 0x161F9, 0x161FB, 0x16207, 0x16211, 0x16217, 0x16223, 0x16235, 0x16237, 0x16249, 0x1624F, 0x16255],
  [0x1626B, 0x1627D, 0x162A3, 0x162A9, 0x162B3, 0x162C5, 0x162C7, 0x162D1, 0x162D9, 0x162DF, 0x162EF, 0x16307],
  [0x16315, 0x1631B, 0x1631F, 0x16325, 0x16333, 0x16343, 0x1635B, 0x16361, 0x1636D, 0x16375, 0x16381, 0x1638B],
  [0x16399, 0x163C7, 0x163C9, 0x163D9, 0x163DB, 0x163F1, 0x163F7, 0x163F9, 0x16403, 0x16405, 0x1640F, 0x16411],
  [0x16417, 0x1641B, 0x1642F, 0x16439, 0x1643F, 0x1645D, 0x16465, 0x1646B, 0x16471, 0x16475, 0x16493, 0x1649B],
  [0x164A1, 0x164A7, 0x164AD, 0x164C3, 0x164E7, 0x164E9, 0x164ED, 0x164F5, 0x164FB, 0x16501, 0x16505, 0x16513],
  [0x1651F, 0x16529, 0x1653D, 0x16541, 0x16543, 0x16547, 0x16565, 0x1656B, 0x16579, 0x16589, 0x16595, 0x165B3],
  [0x165B5, 0x165B9, 0x165BF, 0x165C7, 0x165E5, 0x165EF, 0x165F7, 0x16619, 0x1662B, 0x16637, 0x1663F, 0x16655],
  [0x16669, 0x1666D, 0x1667B, 0x16685, 0x16699, 0x1669F, 0x166A3, 0x166A5, 0x166AF, 0x166BD, 0x166C1, 0x166DB],
  [0x166E1, 0x16705, 0x16711, 0x16723, 0x16727, 0x1672F, 0x16735, 0x16739, 0x1673F, 0x16741, 0x1675D, 0x16763],
  [0x16769, 0x16781, 0x16789, 0x16793, 0x167AD, 0x167B3, 0x167CB, 0x167CF, 0x167D7, 0x167EF, 0x167F9, 0x1680D],
  [0x16811, 0x16813, 0x1681D, 0x1682B, 0x1683B, 0x1683D, 0x16843, 0x16849, 0x1684D, 0x16853, 0x1685B, 0x1686D],
  [0x16889, 0x16897, 0x1689D, 0x168AD, 0x168BB, 0x168C1, 0x168C5, 0x168CB, 0x168D1, 0x168D9, 0x168DD, 0x168DF],
  [0x168E3, 0x168EF, 0x168F1, 0x168FD, 0x16903, 0x1690F, 0x1692B, 0x1692D, 0x16933, 0x1693F, 0x16949, 0x16957],
  [0x1695B, 0x16987, 0x1698D, 0x16997, 0x16999, 0x169A5, 0x169B1, 0x169CF, 0x169D3, 0x169DF, 0x169E1, 0x169E7],
  [0x169F1, 0x169FD, 0x169FF, 0x16A09, 0x16A0B, 0x16A15, 0x16A1B, 0x16A23, 0x16A2D, 0x16A33, 0x16A41, 0x16A51],
  [0x16A59, 0x16A5F, 0x16A6B, 0x16A75, 0x16A77, 0x16A81, 0x16A89, 0x16A95, 0x16A9F, 0x16AB1, 0x16AB9, 0x16ABD],
  [0x16ABF, 0x16AC3, 0x16ADD, 0x16AE3, 0x16AF9, 0x16AFF, 0x16B0D, 0x16B17, 0x16B1D, 0x16B1F, 0x16B3B, 0x16B41],
  [0x16B49, 0x16B77, 0x16B7D, 0x16B83, 0x16B95, 0x16B9B, 0x16BA1, 0x16BA9, 0x16BAF, 0x16BB9, 0x16BCB, 0x16BCD],
  [0x16BD3, 0x16BDF, 0x16BF1, 0x16BFB, 0x16C03, 0x16C0F, 0x16C2D, 0x16C37, 0x16C39, 0x16C43, 0x16C45, 0x16C49],
  [0x16C4F, 0x16C61, 0x16C63, 0x16C67, 0x16C7B, 0x16C87, 0x16C8B, 0x16C91, 0x16C99, 0x16CBB, 0x16CC1, 0x16CC7],
  [0x16CDF, 0x16CEB, 0x16CF3, 0x16D17, 0x16D27, 0x16D29, 0x16D2F, 0x16D33, 0x16D35, 0x16D39, 0x16D3F, 0x16D53],
  [0x16D59, 0x16D71, 0x16D75, 0x16D77, 0x16D7B, 0x16D8D, 0x16DA1, 0x16DA7, 0x16DBD, 0x16DC5, 0x16DF3, 0x16E05],
  [0x16E07, 0x16E17, 0x16E2B, 0x16E41, 0x16E43, 0x16E5B, 0x16E71, 0x16E73, 0x16E83, 0x16E9B, 0x16EAF, 0x16EBF],
  [0x16EC1, 0x16EC5, 0x16ECD, 0x16ED7, 0x16ED9, 0x16EE3, 0x16EF1, 0x16EF5, 0x16EFD, 0x16F0F, 0x16F13, 0x16F1B],
  [0x16F1F, 0x16F2D, 0x16F37, 0x16F39, 0x16F51, 0x16F61, 0x16F69, 0x16F6F, 0x16F7F, 0x16F93, 0x16F9D, 0x16F9F],
  [0x16FA5, 0x16FA9, 0x16FC7, 0x16FC9, 0x16FD9, 0x16FF9, 0x16FFF, 0x1700B, 0x17015, 0x1702D, 0x17035, 0x17041],
  [0x17053, 0x17063, 0x17065, 0x17071, 0x17077, 0x1707B, 0x17087, 0x1708D, 0x1708F, 0x170AB, 0x170BD, 0x170BF],
  [0x170D5, 0x170DB, 0x170E1, 0x170E7, 0x170E9, 0x170EF, 0x170FF, 0x1710D, 0x17113, 0x17131, 0x17141, 0x17143],
  [0x1714D, 0x1714F, 0x17153, 0x1715F, 0x17161, 0x1716D, 0x17177, 0x17185, 0x1718B, 0x17195, 0x1719D, 0x171B9],
  [0x171BB, 0x171DF, 0x171E5, 0x171F5, 0x17203, 0x17207, 0x1721B, 0x17233, 0x17239, 0x1723D, 0x17245, 0x17249],
  [0x1725B, 0x17263, 0x17267, 0x17275, 0x17279, 0x1727F, 0x17281, 0x17299, 0x172A9, 0x172B7, 0x172BB, 0x172D5],
  [0x172E5, 0x172E7, 0x172F1, 0x17311, 0x17317, 0x1731B, 0x17321, 0x1732D, 0x17333, 0x17357, 0x1735F, 0x1736B],
  [0x1736F, 0x17371, 0x17375, 0x1737D, 0x17383, 0x17387, 0x1739B, 0x173A7, 0x173B1, 0x173C9, 0x173D5, 0x173D7],
  [0x173E3, 0x173ED, 0x173F3, 0x173FF, 0x17401, 0x17407, 0x17419, 0x1741D, 0x17423, 0x17429, 0x1742F, 0x17437],
  [0x1744F, 0x17455, 0x1745F, 0x1746B, 0x17489, 0x17497, 0x174A1, 0x174A9, 0x174B5, 0x174BB, 0x174C5, 0x174D1],
  [0x174D3, 0x174E5, 0x174EB, 0x174EF, 0x174F7, 0x174FB, 0x17513, 0x17527, 0x1752B, 0x17533, 0x1753D, 0x17549],
  [0x17551, 0x1755D, 0x1756D, 0x17573, 0x17581, 0x17585, 0x1758D, 0x17591, 0x175A3, 0x175D5, 0x175DB, 0x175E1],
  [0x175E5, 0x175EB, 0x175F3, 0x175F9, 0x17603, 0x1761D, 0x17627, 0x1762D, 0x1762F, 0x17639, 0x1763B, 0x17645],
  [0x1764B, 0x17671, 0x1767D, 0x17681, 0x17689, 0x17693, 0x176A7, 0x176AD, 0x176B3, 0x176B9, 0x176CB, 0x176D5],
  [0x176D7, 0x176E3, 0x176F3, 0x176F5, 0x17701, 0x1770D, 0x17711, 0x1772B, 0x17735, 0x1773B, 0x1774F, 0x17761],
  [0x17789, 0x17795, 0x1779D, 0x177A7, 0x177B3, 0x177B5, 0x177C7, 0x177D3, 0x177DD, 0x177DF, 0x177E9, 0x17803],
  [0x17807, 0x1780D, 0x17819, 0x17821, 0x17825, 0x17843, 0x17849, 0x1784B, 0x17851, 0x17861, 0x17879, 0x17891],
  [0x178A3, 0x178AF, 0x178BB, 0x178C3, 0x178C9, 0x178CD, 0x178D5, 0x178DF, 0x178E7, 0x178ED, 0x178F1, 0x17905],
  [0x1790F, 0x17929, 0x1792D, 0x17945, 0x1794B, 0x1794D, 0x17959, 0x17983, 0x17995, 0x1799B, 0x1799F, 0x179B9],
  [0x179BF, 0x179DB, 0x179E1, 0x179E3, 0x179ED, 0x179F5, 0x179FB, 0x17A01, 0x17A0B, 0x17A13, 0x17A1D, 0x17A1F],
  [0x17A35, 0x17A37, 0x17A3B, 0x17A4F, 0x17A53, 0x17A59, 0x17A7D, 0x17A8B, 0x17A8F, 0x17AA3, 0x17AB9, 0x17ABF],
  [0x17ACD, 0x17AD3, 0x17ADD, 0x17AE5, 0x17AE9, 0x17AEB, 0x17AEF, 0x17AFD, 0x17B0F, 0x17B31, 0x17B39, 0x17B4F],
  [0x17B5D, 0x17B67, 0x17B7F, 0x17B85, 0x17B87, 0x17B91, 0x17B93, 0x17B99, 0x17BA3, 0x17BBD, 0x17BCF, 0x17BD9],
  [0x17BEB, 0x17C03, 0x17C15, 0x17C17, 0x17C2F, 0x17C57, 0x17C59, 0x17C5D, 0x17C63, 0x17C65, 0x17C6B, 0x17C75],
  [0x17C8F, 0x17C95, 0x17CA1, 0x17CAD, 0x17CB3, 0x17CB7, 0x17CDB, 0x17CDD, 0x17CE7, 0x17CF3, 0x17D0B, 0x17D0D],
  [0x17D11, 0x17D19, 0x17D23, 0x17D29, 0x17D2B, 0x17D2F, 0x17D47, 0x17D49, 0x17D4D, 0x17D71, 0x17D73, 0x17D89],
  [0x17D97, 0x17DAF, 0x17DC1, 0x17DEB, 0x17DF1, 0x17DFB, 0x17DFD, 0x17E15, 0x17E25, 0x17E31, 0x17E33, 0x17E37],
  [0x17E39, 0x17E43, 0x17E45, 0x17E4F, 0x17E57, 0x17E5B, 0x17E7F, 0x17E87, 0x17E8B, 0x17E97, 0x17EA9, 0x17EAF],
  [0x17EB5, 0x17EC3, 0x17ED9, 0x17EDB, 0x17EE1, 0x17EF9, 0x17EFF, 0x17F09, 0x17F21, 0x17F35, 0x17F4B, 0x17F51],
  [0x17F5F, 0x17F83, 0x17F9F, 0x17FA5, 0x17FAD, 0x17FB3, 0x17FCB, 0x17FD1, 0x17FDD, 0x17FF9, 0x17FFB, 0x1800D],
  [0x18011, 0x18013, 0x18017, 0x1802B, 0x18041, 0x18049, 0x18053, 0x18055, 0x18067, 0x1806B, 0x18073, 0x1807D],
  [0x1808B, 0x18095, 0x1809B, 0x180A3, 0x180A9, 0x180AF, 0x180BB, 0x180CB, 0x180D7, 0x180E5, 0x180EF, 0x18101],
  [0x18103, 0x1810D, 0x18125, 0x1813D, 0x18143, 0x1814F, 0x18151, 0x18167, 0x1816D, 0x18181, 0x18197, 0x18199],
  [0x1819D, 0x181A9, 0x181AB, 0x181B1, 0x181D5, 0x181DB, 0x181F1, 0x181F7, 0x181F9, 0x18215, 0x18221, 0x18233],
  [0x18235, 0x18239, 0x18247, 0x1824D, 0x18251, 0x18253, 0x1825D, 0x1825F, 0x1826F, 0x18271, 0x1827B, 0x18283],
  [0x18289, 0x18293, 0x182A5, 0x182B1, 0x182B7, 0x182C5, 0x182C9, 0x182CF, 0x182E1, 0x182ED, 0x18307, 0x1830B],
  [0x18311, 0x1831F, 0x18325, 0x1832F, 0x1833B, 0x1833D, 0x18341, 0x18343, 0x1834D, 0x18365, 0x1836D, 0x18377],
  [0x18397, 0x183A1, 0x183A9, 0x183B3, 0x183B9, 0x183BB, 0x183CD, 0x183D9, 0x183F5, 0x18413, 0x18415, 0x18427],
  [0x1842B, 0x18431, 0x1843F, 0x18445, 0x18449, 0x18451, 0x18467, 0x1846F, 0x1848D, 0x1849F, 0x184A9, 0x184C3],
  [0x184C7, 0x184C9, 0x184DF, 0x184E7, 0x184EB, 0x184F3, 0x184F9, 0x184FD, 0x18517, 0x1851B, 0x18527, 0x1853B],
  [0x1854D, 0x18553, 0x1855F, 0x18569, 0x1857B, 0x1857D, 0x18581, 0x18587, 0x18589, 0x18595, 0x185B1, 0x185B7],
  [0x185CB, 0x185D1, 0x185E1, 0x185E9, 0x185EF, 0x185F5, 0x185F9, 0x185FF, 0x18613, 0x1861F]].flatten

/-! What the two checks rely on. -/

theorem primes2_length : primes2.length = 1061 := by
  rw [primes2, List.length_flatten]
  decide +kernel

theorem primes3_length : primes3.length = 8353 := by
  rw [primes3, List.length_flatten]
  decide +kernel

theorem primes3_ends : primes3.headD 0 = 0x2717 ∧ primes3.getLastD 0 = 0x1861F := by
  decide +kernel

theorem primes2_bounds : ∀ prime2 ∈ primes2, 0 < prime2 ∧ prime2 < 0x2700 := by
  have hall : primes2.all (fun prime2 => decide (0 < prime2 ∧ prime2 < 0x2700)) = true := by
    decide +kernel
  exact fun prime2 hmem => of_decide_eq_true (List.all_eq_true.mp hall prime2 hmem)

theorem primes3_bounds : ∀ prime3 ∈ primes3, 0x2717 ≤ prime3 ∧ prime3 ≤ 0x1861F := by
  have hall : primes3.all (fun prime3 => decide (0x2717 ≤ prime3 ∧ prime3 ≤ 0x1861F)) = true := by
    decide +kernel
  exact fun prime3 hmem => of_decide_eq_true (List.all_eq_true.mp hall prime3 hmem)

end HuntersGuild.DcSerialTables
